import Syllabary.Index
import Syllabary.Kana.Converter
import Syllabary.Kana.DefaultSource
import Syllabary.Kana.DefaultTable
import Syllabary.Kana.Mark
import Syllabary.Kana.Rules
import Syllabary.Kana.Script
import Syllabary.Kana.Table
import Syllabary.Mappings
import Syllabary.Rule.Basic
import Syllabary.Rule.Cases
import Syllabary.Rule.Description
import Syllabary.Rule.Phonetic
import Syllabary.Scan.Conversion
import Syllabary.Scan.Cursor
import Syllabary.Scan.Step
import Syllabary.Text
import Syllabary.Toml.DateTime
import Syllabary.Toml.Document
import Syllabary.Toml.Lexical
import Syllabary.Toml.Number
import Syllabary.Toml.Parser
import Syllabary.Toml.Value
import Syllabary.Toml.Writing
import Syllabary.Unicode.Case
import Syllabary.Unicode.CaseData
import Syllabary.Unicode.CodeMap
import Syllabary.Unicode.CombiningClassData
import Syllabary.Unicode.CompositionData
import Syllabary.Unicode.DecompositionData
import Syllabary.Unicode.Normalization
import Syllabary.Unicode.Normalizer
import Syllabary.Proofs.Ownership
import Syllabary.Proofs.Reach
import Syllabary.Proofs.Search
import Syllabary.Proofs.Buffer
import Syllabary.Proofs.Session
import Syllabary.Proofs.NormalForms
import Syllabary.Proofs.Overlay
import Syllabary.Proofs.Longest
import Syllabary.Proofs.Measures
import Syllabary.Proofs.Pairs
import Syllabary.Proofs.Equivalence
import Syllabary.Proofs.LatinText
import Syllabary.Proofs.RomajiRules
import Syllabary.Proofs.DefaultRomaji
import Syllabary.Proofs.NasalSyllables
import Syllabary.Proofs.RomajiForms
import Syllabary.Proofs.DoubledNasal
import Syllabary.Proofs.VowelSteps
import Syllabary.Proofs.DecomposedSteps
import Syllabary.Proofs.LongVowelForms
import Syllabary.Proofs.Lockstep
import Syllabary.Proofs.DefaultKeys
import Syllabary.Proofs.LetterCase
import Syllabary.Proofs.KanaLetters
import Syllabary.Proofs.Idempotence
import Syllabary.Proofs.ScriptsInStep
import Syllabary.Proofs.Agreement
import Syllabary.Proofs.Boundaries
import Syllabary.Proofs.KeyCase
import Syllabary.Proofs.LongVowelVariants
import Syllabary.Proofs.Stretches
import Syllabary.Proofs.LetterRuns
import Syllabary.Proofs.ConsonantRuns
import Syllabary.Proofs.NasalRuns
import Syllabary.Proofs.VerbatimKeys
import Syllabary.Proofs.QuotedVowels
import Syllabary.Proofs.MarkedLetters
import Syllabary.Proofs.HalfwidthLetters
import Syllabary.Proofs.ProductiveRules
import Syllabary.Proofs.PhoneticSteps
import Syllabary.Proofs.LookAhead
import Syllabary.Proofs.MappingRules
import Syllabary.Proofs.WrittenDocuments
import Syllabary.Proofs.WrittenTables
