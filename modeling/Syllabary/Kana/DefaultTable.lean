import Syllabary.Kana.Table

/-!
# The default kana table

The rows of the table that converters use when none is given. Spellings that lose against others
come first.
-/

namespace Syllabary.Kana.Default

set_option maxRecDepth 4000

/-- Single letters. -/
def kanaRows : List Row := [
  ⟨['ゎ'], ['ヮ'], ['w', 'a']⟩, ⟨['ゕ'], ['ヵ'], ['k', 'a']⟩, ⟨['ゖ'], ['ヶ'], ['k', 'e']⟩,
    ⟨['ん'], ['ン'], ['n']⟩, ⟨['ん'], ['ン'], ['n', '\x27']⟩, ⟨['か'], ['カ'], ['c', 'a']⟩,
    ⟨['し'], ['シ'], ['c', 'i']⟩, ⟨['く'], ['ク'], ['c', 'u']⟩, ⟨['せ'], ['セ'], ['c', 'e']⟩,
    ⟨['こ'], ['コ'], ['c', 'o']⟩, ⟨['し'], ['シ'], ['s', 'i']⟩, ⟨['じ'], ['ジ'], ['z', 'i']⟩,
    ⟨['ち'], ['チ'], ['t', 'i']⟩, ⟨['ぢ'], ['ヂ'], ['d', 'j', 'i']⟩, ⟨['ぢ'], ['ヂ'], ['d', 'z', 'i']⟩,
    ⟨['つ'], ['ツ'], ['t', 'u']⟩, ⟨['づ'], ['ヅ'], ['d', 'z', 'u']⟩, ⟨['ふ'], ['フ'], ['h', 'u']⟩,
    ⟨['う'], ['ウ'], ['w', 'u']⟩, ⟨['あ'], ['ア'], ['a']⟩, ⟨['い'], ['イ'], ['i']⟩,
    ⟨['う'], ['ウ'], ['u']⟩, ⟨['え'], ['エ'], ['e']⟩, ⟨['お'], ['オ'], ['o']⟩,
    ⟨['か'], ['カ'], ['k', 'a']⟩, ⟨['き'], ['キ'], ['k', 'i']⟩, ⟨['く'], ['ク'], ['k', 'u']⟩,
    ⟨['け'], ['ケ'], ['k', 'e']⟩, ⟨['こ'], ['コ'], ['k', 'o']⟩, ⟨['が'], ['ガ'], ['g', 'a']⟩,
    ⟨['ぎ'], ['ギ'], ['g', 'i']⟩, ⟨['ぐ'], ['グ'], ['g', 'u']⟩, ⟨['げ'], ['ゲ'], ['g', 'e']⟩,
    ⟨['ご'], ['ゴ'], ['g', 'o']⟩, ⟨['さ'], ['サ'], ['s', 'a']⟩, ⟨['し'], ['シ'], ['s', 'h', 'i']⟩,
    ⟨['す'], ['ス'], ['s', 'u']⟩, ⟨['せ'], ['セ'], ['s', 'e']⟩, ⟨['そ'], ['ソ'], ['s', 'o']⟩,
    ⟨['ざ'], ['ザ'], ['z', 'a']⟩, ⟨['じ'], ['ジ'], ['j', 'i']⟩, ⟨['ず'], ['ズ'], ['z', 'u']⟩,
    ⟨['ぜ'], ['ゼ'], ['z', 'e']⟩, ⟨['ぞ'], ['ゾ'], ['z', 'o']⟩, ⟨['た'], ['タ'], ['t', 'a']⟩,
    ⟨['ち'], ['チ'], ['c', 'h', 'i']⟩, ⟨['つ'], ['ツ'], ['t', 's', 'u']⟩, ⟨['て'], ['テ'], ['t', 'e']⟩,
    ⟨['と'], ['ト'], ['t', 'o']⟩, ⟨['だ'], ['ダ'], ['d', 'a']⟩, ⟨['ぢ'], ['ヂ'], ['d', 'i']⟩,
    ⟨['づ'], ['ヅ'], ['d', 'u']⟩, ⟨['で'], ['デ'], ['d', 'e']⟩, ⟨['ど'], ['ド'], ['d', 'o']⟩,
    ⟨['な'], ['ナ'], ['n', 'a']⟩, ⟨['に'], ['ニ'], ['n', 'i']⟩, ⟨['ぬ'], ['ヌ'], ['n', 'u']⟩,
    ⟨['ね'], ['ネ'], ['n', 'e']⟩, ⟨['の'], ['ノ'], ['n', 'o']⟩, ⟨['は'], ['ハ'], ['h', 'a']⟩,
    ⟨['ひ'], ['ヒ'], ['h', 'i']⟩, ⟨['ふ'], ['フ'], ['f', 'u']⟩, ⟨['へ'], ['ヘ'], ['h', 'e']⟩,
    ⟨['ほ'], ['ホ'], ['h', 'o']⟩, ⟨['ば'], ['バ'], ['b', 'a']⟩, ⟨['び'], ['ビ'], ['b', 'i']⟩,
    ⟨['ぶ'], ['ブ'], ['b', 'u']⟩, ⟨['べ'], ['ベ'], ['b', 'e']⟩, ⟨['ぼ'], ['ボ'], ['b', 'o']⟩,
    ⟨['ぱ'], ['パ'], ['p', 'a']⟩, ⟨['ぴ'], ['ピ'], ['p', 'i']⟩, ⟨['ぷ'], ['プ'], ['p', 'u']⟩,
    ⟨['ぺ'], ['ペ'], ['p', 'e']⟩, ⟨['ぽ'], ['ポ'], ['p', 'o']⟩, ⟨['ま'], ['マ'], ['m', 'a']⟩,
    ⟨['み'], ['ミ'], ['m', 'i']⟩, ⟨['む'], ['ム'], ['m', 'u']⟩, ⟨['め'], ['メ'], ['m', 'e']⟩,
    ⟨['も'], ['モ'], ['m', 'o']⟩, ⟨['や'], ['ヤ'], ['y', 'a']⟩, ⟨['ゆ'], ['ユ'], ['y', 'u']⟩,
    ⟨['よ'], ['ヨ'], ['y', 'o']⟩, ⟨['ら'], ['ラ'], ['r', 'a']⟩, ⟨['り'], ['リ'], ['r', 'i']⟩,
    ⟨['る'], ['ル'], ['r', 'u']⟩, ⟨['れ'], ['レ'], ['r', 'e']⟩, ⟨['ろ'], ['ロ'], ['r', 'o']⟩,
    ⟨['わ'], ['ワ'], ['w', 'a']⟩, ⟨['ゐ'], ['ヰ'], ['w', 'i']⟩, ⟨['ゑ'], ['ヱ'], ['w', 'e']⟩,
    ⟨['を'], ['ヲ'], ['w', 'o']⟩, ⟨['ゔ'], ['ヴ'], ['v', 'u']⟩]

/-- Small letters by themselves. -/
def smallKanaRows : List Row := [
  ⟨['ぁ'], ['ァ'], ['a']⟩, ⟨['ぃ'], ['ィ'], ['i']⟩, ⟨['ぅ'], ['ゥ'], ['u']⟩, ⟨['ぇ'], ['ェ'], ['e']⟩,
    ⟨['ぉ'], ['ォ'], ['o']⟩, ⟨['っ'], ['ッ'], ['t', 's', 'u']⟩, ⟨['ゃ'], ['ャ'], ['y', 'a']⟩,
    ⟨['ゅ'], ['ュ'], ['y', 'u']⟩, ⟨['ょ'], ['ョ'], ['y', 'o']⟩]

/-- Digraphs. -/
def digraphRows : List Row := [
  ⟨['じ', 'ゃ'], ['ジ', 'ャ'], ['j', 'y', 'a']⟩, ⟨['じ', 'ゅ'], ['ジ', 'ュ'], ['j', 'y', 'u']⟩,
    ⟨['じ', 'ぇ'], ['ジ', 'ェ'], ['j', 'y', 'e']⟩, ⟨['じ', 'ょ'], ['ジ', 'ョ'], ['j', 'y', 'o']⟩,
    ⟨['じ', 'ゃ'], ['ジ', 'ャ'], ['z', 'y', 'a']⟩, ⟨['じ', 'ゅ'], ['ジ', 'ュ'], ['z', 'y', 'u']⟩,
    ⟨['じ', 'ぇ'], ['ジ', 'ェ'], ['z', 'y', 'e']⟩, ⟨['じ', 'ょ'], ['ジ', 'ョ'], ['z', 'y', 'o']⟩,
    ⟨['ち', 'ゃ'], ['チ', 'ャ'], ['t', 'y', 'a']⟩, ⟨['ち', 'ゅ'], ['チ', 'ュ'], ['t', 'y', 'u']⟩,
    ⟨['ち', 'ぇ'], ['チ', 'ェ'], ['t', 'y', 'e']⟩, ⟨['ち', 'ょ'], ['チ', 'ョ'], ['t', 'y', 'o']⟩,
    ⟨['ぢ', 'ゃ'], ['ヂ', 'ャ'], ['d', 'y', 'a']⟩, ⟨['ぢ', 'ゅ'], ['ヂ', 'ュ'], ['d', 'y', 'u']⟩,
    ⟨['ぢ', 'ぇ'], ['ヂ', 'ェ'], ['d', 'y', 'e']⟩, ⟨['ぢ', 'ょ'], ['ヂ', 'ョ'], ['d', 'y', 'o']⟩,
    ⟨['ぢ', 'ゃ'], ['ヂ', 'ャ'], ['d', 'z', 'a']⟩, ⟨['ぢ', 'ぇ'], ['ヂ', 'ェ'], ['d', 'z', 'e']⟩,
    ⟨['ぢ', 'ょ'], ['ヂ', 'ョ'], ['d', 'z', 'o']⟩, ⟨['き', 'ゃ'], ['キ', 'ャ'], ['k', 'y', 'a']⟩,
    ⟨['き', 'ゅ'], ['キ', 'ュ'], ['k', 'y', 'u']⟩, ⟨['き', 'ぇ'], ['キ', 'ェ'], ['k', 'y', 'e']⟩,
    ⟨['き', 'ょ'], ['キ', 'ョ'], ['k', 'y', 'o']⟩, ⟨['ぎ', 'ゃ'], ['ギ', 'ャ'], ['g', 'y', 'a']⟩,
    ⟨['ぎ', 'ゅ'], ['ギ', 'ュ'], ['g', 'y', 'u']⟩, ⟨['ぎ', 'ぇ'], ['ギ', 'ェ'], ['g', 'y', 'e']⟩,
    ⟨['ぎ', 'ょ'], ['ギ', 'ョ'], ['g', 'y', 'o']⟩, ⟨['し', 'ゃ'], ['シ', 'ャ'], ['s', 'h', 'a']⟩,
    ⟨['し', 'ゅ'], ['シ', 'ュ'], ['s', 'h', 'u']⟩, ⟨['し', 'ぇ'], ['シ', 'ェ'], ['s', 'h', 'e']⟩,
    ⟨['し', 'ょ'], ['シ', 'ョ'], ['s', 'h', 'o']⟩, ⟨['じ', 'ゃ'], ['ジ', 'ャ'], ['j', 'a']⟩,
    ⟨['じ', 'ゅ'], ['ジ', 'ュ'], ['j', 'u']⟩, ⟨['じ', 'ぇ'], ['ジ', 'ェ'], ['j', 'e']⟩,
    ⟨['じ', 'ょ'], ['ジ', 'ョ'], ['j', 'o']⟩, ⟨['ち', 'ゃ'], ['チ', 'ャ'], ['c', 'h', 'a']⟩,
    ⟨['ち', 'ゅ'], ['チ', 'ュ'], ['c', 'h', 'u']⟩, ⟨['ち', 'ぇ'], ['チ', 'ェ'], ['c', 'h', 'e']⟩,
    ⟨['ち', 'ょ'], ['チ', 'ョ'], ['c', 'h', 'o']⟩, ⟨['ぢ', 'ゃ'], ['ヂ', 'ャ'], ['d', 'j', 'a']⟩,
    ⟨['ぢ', 'ゅ'], ['ヂ', 'ュ'], ['d', 'j', 'u']⟩, ⟨['ぢ', 'ぇ'], ['ヂ', 'ェ'], ['d', 'j', 'e']⟩,
    ⟨['ぢ', 'ょ'], ['ヂ', 'ョ'], ['d', 'j', 'o']⟩, ⟨['に', 'ゃ'], ['ニ', 'ャ'], ['n', 'y', 'a']⟩,
    ⟨['に', 'ゅ'], ['ニ', 'ュ'], ['n', 'y', 'u']⟩, ⟨['に', 'ぇ'], ['ニ', 'ェ'], ['n', 'y', 'e']⟩,
    ⟨['に', 'ょ'], ['ニ', 'ョ'], ['n', 'y', 'o']⟩, ⟨['ひ', 'ゃ'], ['ヒ', 'ャ'], ['h', 'y', 'a']⟩,
    ⟨['ひ', 'ゅ'], ['ヒ', 'ュ'], ['h', 'y', 'u']⟩, ⟨['ひ', 'ぇ'], ['ヒ', 'ェ'], ['h', 'y', 'e']⟩,
    ⟨['ひ', 'ょ'], ['ヒ', 'ョ'], ['h', 'y', 'o']⟩, ⟨['び', 'ゃ'], ['ビ', 'ャ'], ['b', 'y', 'a']⟩,
    ⟨['び', 'ゅ'], ['ビ', 'ュ'], ['b', 'y', 'u']⟩, ⟨['び', 'ぇ'], ['ビ', 'ェ'], ['b', 'y', 'e']⟩,
    ⟨['び', 'ょ'], ['ビ', 'ョ'], ['b', 'y', 'o']⟩, ⟨['ぴ', 'ゃ'], ['ピ', 'ャ'], ['p', 'y', 'a']⟩,
    ⟨['ぴ', 'ゅ'], ['ピ', 'ュ'], ['p', 'y', 'u']⟩, ⟨['ぴ', 'ぇ'], ['ピ', 'ェ'], ['p', 'y', 'e']⟩,
    ⟨['ぴ', 'ょ'], ['ピ', 'ョ'], ['p', 'y', 'o']⟩, ⟨['ふ', 'ぁ'], ['フ', 'ァ'], ['f', 'a']⟩,
    ⟨['ふ', 'ぃ'], ['フ', 'ィ'], ['f', 'i']⟩, ⟨['ふ', 'ぇ'], ['フ', 'ェ'], ['f', 'e']⟩,
    ⟨['ふ', 'ぉ'], ['フ', 'ォ'], ['f', 'o']⟩, ⟨['み', 'ゃ'], ['ミ', 'ャ'], ['m', 'y', 'a']⟩,
    ⟨['み', 'ゅ'], ['ミ', 'ュ'], ['m', 'y', 'u']⟩, ⟨['み', 'ぇ'], ['ミ', 'ェ'], ['m', 'y', 'e']⟩,
    ⟨['み', 'ょ'], ['ミ', 'ョ'], ['m', 'y', 'o']⟩, ⟨['り', 'ゃ'], ['リ', 'ャ'], ['r', 'y', 'a']⟩,
    ⟨['り', 'ゅ'], ['リ', 'ュ'], ['r', 'y', 'u']⟩, ⟨['り', 'ぇ'], ['リ', 'ェ'], ['r', 'y', 'e']⟩,
    ⟨['り', 'ょ'], ['リ', 'ョ'], ['r', 'y', 'o']⟩, ⟨['う', 'ぃ'], ['ウ', 'ィ'], ['w', 'i']⟩,
    ⟨['う', 'ぇ'], ['ウ', 'ェ'], ['w', 'e']⟩, ⟨['ゔ', 'ぁ'], ['ヴ', 'ァ'], ['v', 'a']⟩,
    ⟨['ゔ', 'ぃ'], ['ヴ', 'ィ'], ['v', 'i']⟩, ⟨['ゔ', 'ぇ'], ['ヴ', 'ェ'], ['v', 'e']⟩,
    ⟨['ゔ', 'ぉ'], ['ヴ', 'ォ'], ['v', 'o']⟩]

/-- Katakana that have no hiragana of one character. -/
def rareKatakanaRows : List Row := [
  ⟨['わ', '\u3099'], ['ヷ'], ['v', 'a']⟩, ⟨['ゐ', '\u3099'], ['ヸ'], ['v', 'i']⟩,
    ⟨['ゑ', '\u3099'], ['ヹ'], ['v', 'e']⟩, ⟨['を', '\u3099'], ['ヺ'], ['v', 'o']⟩]

/-- Romaji for typing. -/
def imeRows : List Row := [
  ⟨['ぁ'], ['ァ'], ['x', 'a']⟩, ⟨['ぃ'], ['ィ'], ['x', 'i']⟩, ⟨['ぅ'], ['ゥ'], ['x', 'u']⟩,
    ⟨['ぇ'], ['ェ'], ['x', 'e']⟩, ⟨['ぉ'], ['ォ'], ['x', 'o']⟩, ⟨['ゐ'], ['ヰ'], ['x', 'w', 'i']⟩,
    ⟨['ゑ'], ['ヱ'], ['x', 'w', 'e']⟩, ⟨['わ', '\u3099'], ['ヷ'], ['x', 'v', 'a']⟩,
    ⟨['ゐ', '\u3099'], ['ヸ'], ['x', 'v', 'i']⟩, ⟨['ゑ', '\u3099'], ['ヹ'], ['x', 'v', 'e']⟩,
    ⟨['を', '\u3099'], ['ヺ'], ['x', 'v', 'o']⟩, ⟨['ゃ'], ['ャ'], ['x', 'y', 'a']⟩,
    ⟨['ゅ'], ['ュ'], ['x', 'y', 'u']⟩, ⟨['ょ'], ['ョ'], ['x', 'y', 'o']⟩,
    ⟨['っ'], ['ッ'], ['x', 't', 'u']⟩, ⟨['っ'], ['ッ'], ['x', 't', 's', 'u']⟩,
    ⟨['ど', 'ぅ'], ['ド', 'ゥ'], ['x', 'd', 'u']⟩, ⟨['て', 'ぃ'], ['テ', 'ィ'], ['x', 't', 'i']⟩,
    ⟨['で', 'ぃ'], ['デ', 'ィ'], ['x', 'd', 'i']⟩, ⟨['ゎ'], ['ヮ'], ['x', 'w', 'a']⟩,
    ⟨['ゕ'], ['ヵ'], ['x', 'k', 'a']⟩, ⟨['ゖ'], ['ヶ'], ['x', 'k', 'e']⟩, ⟨['・'], ['・'], ['/']⟩,
    ⟨['ー'], ['ー'], ['-']⟩]

/-- Halfwidth katakana. -/
def halfwidthRows : List HalfwidthRow := [
  ⟨['ー'], ['ｰ'], .plain⟩, ⟨['ぁ'], ['ｧ'], .plain⟩, ⟨['ぃ'], ['ｨ'], .plain⟩, ⟨['ぅ'], ['ｩ'], .plain⟩,
    ⟨['ぇ'], ['ｪ'], .plain⟩, ⟨['ぉ'], ['ｫ'], .plain⟩, ⟨['ゃ'], ['ｬ'], .plain⟩,
    ⟨['ゅ'], ['ｭ'], .plain⟩, ⟨['ょ'], ['ｮ'], .plain⟩, ⟨['っ'], ['ｯ'], .plain⟩,
    ⟨['を'], ['ｦ'], .plain⟩, ⟨['あ'], ['ｱ'], .plain⟩, ⟨['い'], ['ｲ'], .plain⟩,
    ⟨['う'], ['ｳ'], .voiced⟩, ⟨['え'], ['ｴ'], .plain⟩, ⟨['お'], ['ｵ'], .plain⟩,
    ⟨['か'], ['ｶ'], .voiced⟩, ⟨['き'], ['ｷ'], .voiced⟩, ⟨['く'], ['ｸ'], .voiced⟩,
    ⟨['け'], ['ｹ'], .voiced⟩, ⟨['こ'], ['ｺ'], .voiced⟩, ⟨['さ'], ['ｻ'], .voiced⟩,
    ⟨['し'], ['ｼ'], .voiced⟩, ⟨['す'], ['ｽ'], .voiced⟩, ⟨['せ'], ['ｾ'], .voiced⟩,
    ⟨['そ'], ['ｿ'], .voiced⟩, ⟨['た'], ['ﾀ'], .voiced⟩, ⟨['ち'], ['ﾁ'], .voiced⟩,
    ⟨['つ'], ['ﾂ'], .voiced⟩, ⟨['て'], ['ﾃ'], .voiced⟩, ⟨['と'], ['ﾄ'], .voiced⟩,
    ⟨['な'], ['ﾅ'], .plain⟩, ⟨['に'], ['ﾆ'], .plain⟩, ⟨['ぬ'], ['ﾇ'], .plain⟩,
    ⟨['ね'], ['ﾈ'], .plain⟩, ⟨['の'], ['ﾉ'], .plain⟩, ⟨['は'], ['ﾊ'], .semiVoiced⟩,
    ⟨['ひ'], ['ﾋ'], .semiVoiced⟩, ⟨['ふ'], ['ﾌ'], .semiVoiced⟩, ⟨['へ'], ['ﾍ'], .semiVoiced⟩,
    ⟨['ほ'], ['ﾎ'], .semiVoiced⟩, ⟨['ま'], ['ﾏ'], .plain⟩, ⟨['み'], ['ﾐ'], .plain⟩,
    ⟨['む'], ['ﾑ'], .plain⟩, ⟨['め'], ['ﾒ'], .plain⟩, ⟨['も'], ['ﾓ'], .plain⟩,
    ⟨['や'], ['ﾔ'], .plain⟩, ⟨['ゆ'], ['ﾕ'], .plain⟩, ⟨['よ'], ['ﾖ'], .plain⟩,
    ⟨['ら'], ['ﾗ'], .plain⟩, ⟨['り'], ['ﾘ'], .plain⟩, ⟨['る'], ['ﾙ'], .plain⟩,
    ⟨['れ'], ['ﾚ'], .plain⟩, ⟨['ろ'], ['ﾛ'], .plain⟩, ⟨['わ'], ['ﾜ'], .voiced⟩,
    ⟨['ん'], ['ﾝ'], .plain⟩]

/-- Punctuation. -/
def punctuationRows : List PunctuationRow := [
  ⟨[' '], ['\u3000']⟩, ⟨['/'], ['・']⟩, ⟨[','], ['、']⟩, ⟨['.'], ['。']⟩, ⟨['['], ['「']⟩,
    ⟨[']'], ['」']⟩, ⟨['«'], ['《']⟩, ⟨['»'], ['》']⟩, ⟨['!'], ['！']⟩, ⟨['"'], ['＂']⟩,
    ⟨['#'], ['＃']⟩, ⟨['$'], ['＄']⟩, ⟨['%'], ['％']⟩, ⟨['&'], ['＆']⟩, ⟨['\x27'], ['＇']⟩,
    ⟨['('], ['（']⟩, ⟨[')'], ['）']⟩, ⟨['*'], ['＊']⟩, ⟨['+'], ['＋']⟩, ⟨['-'], ['－']⟩,
    ⟨[':'], ['：']⟩, ⟨[';'], ['；']⟩, ⟨['<'], ['＜']⟩, ⟨['='], ['＝']⟩, ⟨['>'], ['＞']⟩,
    ⟨['?'], ['？']⟩, ⟨['@'], ['＠']⟩, ⟨['\\'], ['＼']⟩, ⟨['^'], ['＾']⟩, ⟨['_'], ['＿']⟩,
    ⟨['`'], ['｀']⟩, ⟨['\x7b'], ['｛']⟩, ⟨['|'], ['｜']⟩, ⟨['\x7d'], ['｝']⟩, ⟨['~'], ['～']⟩,
    ⟨['¢'], ['￠']⟩, ⟨['£'], ['￡']⟩, ⟨['¬'], ['￢']⟩, ⟨['¯'], ['￣']⟩, ⟨['¥'], ['￥']⟩,
    ⟨['₩'], ['￦']⟩]

/-- Marks and digraphs of katakana only. -/
def katakanaExtraRows : List ExtraRow := [
  ⟨['ヽ'], ['ゝ']⟩, ⟨['ヾ'], ['ゞ']⟩, ⟨['ヿ'], ['こ', 'と']⟩, ⟨['ｰ'], ['ー']⟩]

/-- Marks and digraphs of hiragana only. -/
def hiraganaExtraRows : List ExtraRow := [
  ⟨['ゝ'], ['ヽ']⟩, ⟨['ゞ'], ['ヾ']⟩, ⟨['ゟ'], ['ヨ', 'リ']⟩]

end Syllabary.Kana.Default

namespace Syllabary.Kana.Table

open Default

/-- The default table. -/
def default : Table where
  kana := kanaRows
  smallKana := smallKanaRows
  digraphs := digraphRows
  rareKatakana := rareKatakanaRows
  ime := imeRows
  halfwidth := halfwidthRows
  punctuation := punctuationRows
  katakanaExtra := katakanaExtraRows
  hiraganaExtra := hiraganaExtraRows

end Syllabary.Kana.Table
