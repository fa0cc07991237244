import Backtrace.Path

/-!
# Arguments of the program

The program takes an artifact and a resolver program, both optional and by position, and no
flags. A request for help is looked for before the argument line is parsed. The parser is a
parameter, for which the conventions for operands and flags are stated; `Arguments.parse` is a
parser of this kind.
-/

namespace Backtrace

/-- The operands of an invocation of the program. -/
structure Arguments where
  /-- The artifact, if one is given. -/
  artifact : Option Path
  /-- The resolver program, if one is given. -/
  resolver : Option Path
deriving DecidableEq

namespace Arguments

/-- No operands. -/
def none : Arguments := ⟨.none, .none⟩

/-- The operands with a word before them, if there is a place left for it. -/
def after? (word : Bytes) : Arguments → Option Arguments
  | ⟨artifact, .none⟩ => some ⟨some ⟨word⟩, artifact⟩
  | ⟨_, some _⟩ => .none

/-- The byte that flags start with, which alone is an operand. -/
def dash : UInt8 := 0x2D

/-- The word that ends the flags. -/
def endOfFlags : Bytes := [dash, dash]

/-- A word that asks for something by a flag. -/
def isFlag (word : Bytes) : Bool := word.head? == some dash && word != [dash]

/-- The words that ask for help. -/
def helpWords : List Bytes := [Utf8.encode "-h".toList, Utf8.encode "--help".toList]

/-- The program's name is followed at once by a word that asks for help. -/
def asksForHelp : List Bytes → Bool
  | _ :: word :: _ => helpWords.contains word
  | _ => false

end Arguments

/-- Parses an argument line, the program's own name included: its operands, or the text with which
the line is refused. -/
abbrev ArgumentParser := List Bytes → Except Text Arguments

namespace ArgumentParser

open Arguments

/-- The operands of a line that the parser takes. -/
def taken? (parser : ArgumentParser) (line : List Bytes) : Option Arguments :=
  (parser line).toOption

/-- The conventions for an argument line with two optional operands and no flags, word by word
after the program's name. -/
structure Conventional (parser : ArgumentParser) : Prop where
  /-- Without words there are no operands. -/
  nothing (program : Bytes) : parser.taken? [program] = some .none
  /-- A word that is no flag and not empty is the operand before those of the other words. -/
  operand (program : Bytes) {word : Bytes} (words : List Bytes) (full : word ≠ [])
    (plain : isFlag word = false) :
    parser.taken? (program :: word :: words) =
      (parser.taken? (program :: words)).bind (after? word)
  /-- No flag is known. -/
  flag (program : Bytes) {word : Bytes} (words : List Bytes) (flagged : isFlag word = true)
    (other : word ≠ endOfFlags) : parser.taken? (program :: word :: words) = .none
  /-- An empty word is no operand. -/
  empty (program : Bytes) (words : List Bytes) : parser.taken? (program :: [] :: words) = .none
  /-- The end of the flags is no operand itself. -/
  nothingEnded (program : Bytes) : parser.taken? [program, endOfFlags] = some .none
  /-- After the end of the flags every word that is not empty is an operand. -/
  operandEnded (program : Bytes) {word : Bytes} (words : List Bytes) (full : word ≠ []) :
    parser.taken? (program :: endOfFlags :: word :: words) =
      (parser.taken? (program :: endOfFlags :: words)).bind (after? word)
  /-- An empty word is no operand there either. -/
  emptyEnded (program : Bytes) (words : List Bytes) :
    parser.taken? (program :: endOfFlags :: [] :: words) = .none

end ArgumentParser

namespace Arguments

/-- The operands that words give where none of them can be a flag. -/
def ofPlainWords? : List Bytes → Option Arguments
  | [] => some .none
  | word :: words => if word.isEmpty then .none else (ofPlainWords? words).bind (after? word)

/-- The operands that the words after the program's name give. -/
def ofWords? : List Bytes → Option Arguments
  | [] => some .none
  | word :: words =>
    if word = endOfFlags then ofPlainWords? words
    else if word.isEmpty || isFlag word then .none
    else (ofWords? words).bind (after? word)

/-- The plainest parser that keeps to the conventions. It gives no reason for a refusal. -/
def parse : ArgumentParser := fun line =>
  match ofWords? line.tail with
  | some arguments => .ok arguments
  | .none => .error []

/-- The parser takes the words that give operands. -/
theorem taken?_parse (program : Bytes) (words : List Bytes) :
    parse.taken? (program :: words) = ofWords? words := by
  unfold ArgumentParser.taken? parse
  dsimp only [List.tail_cons]
  cases ofWords? words <;> rfl

/-- A plain word is the operand before the others. -/
theorem ofWords?_cons_of_plain {word : Bytes} (full : word ≠ []) (plain : isFlag word = false)
    (words : List Bytes) : ofWords? (word :: words) = (ofWords? words).bind (after? word) := by
  have other : word ≠ endOfFlags := by
    rintro rfl
    exact absurd plain (by decide)
  simp [ofWords?, other, full, plain]

/-- Before the end of the flags a flag is refused. -/
theorem ofWords?_cons_of_flag {word : Bytes} (flagged : isFlag word = true)
    (other : word ≠ endOfFlags) (words : List Bytes) : ofWords? (word :: words) = .none := by
  simp [ofWords?, other, flagged]

/-- An empty word is refused. -/
theorem ofWords?_cons_of_empty (words : List Bytes) : ofWords? ([] :: words) = .none := by
  simp [ofWords?, endOfFlags]

/-- After the end of the flags all words are plain. -/
theorem ofWords?_cons_endOfFlags (words : List Bytes) :
    ofWords? (endOfFlags :: words) = ofPlainWords? words := by
  rw [ofWords?, if_pos rfl]

/-- The plainest parser keeps to the conventions. -/
theorem conventional_parse : parse.Conventional where
  nothing program := taken?_parse program []
  operand program word words full plain := by
    rw [taken?_parse, taken?_parse, ofWords?_cons_of_plain full plain]
  flag program word words flagged other := by
    rw [taken?_parse, ofWords?_cons_of_flag flagged other]
  empty program words := by rw [taken?_parse, ofWords?_cons_of_empty]
  nothingEnded program := taken?_parse program [endOfFlags]
  operandEnded program word words full := by
    rw [taken?_parse, taken?_parse, ofWords?_cons_endOfFlags, ofWords?_cons_endOfFlags,
      ofPlainWords?, if_neg (by simpa using full)]
  emptyEnded program words := by
    rw [taken?_parse, ofWords?_cons_endOfFlags, ofPlainWords?]
    rfl

end Arguments

namespace ArgumentParser

open Arguments

variable {parser : ArgumentParser}

/-- After the end of the flags a conventional parser takes what the words give. -/
theorem taken?_endOfFlags (conventional : parser.Conventional) (program : Bytes)
    (words : List Bytes) :
    parser.taken? (program :: endOfFlags :: words) = ofPlainWords? words := by
  induction words with
  | nil => exact conventional.nothingEnded program
  | cons word words ih =>
    by_cases full : word = []
    · rw [full, conventional.emptyEnded, ofPlainWords?]
      rfl
    · rw [conventional.operandEnded program words full, ih, ofPlainWords?,
        if_neg (by simpa using full)]

/-- The conventions settle which lines are taken, and with which operands. -/
theorem taken?_cons (conventional : parser.Conventional) (program : Bytes) (words : List Bytes) :
    parser.taken? (program :: words) = ofWords? words := by
  induction words with
  | nil => exact conventional.nothing program
  | cons word words ih =>
    by_cases full : word = []
    · rw [full, conventional.empty, ofWords?_cons_of_empty]
    · by_cases ends : word = endOfFlags
      · rw [ends, taken?_endOfFlags conventional, ofWords?_cons_endOfFlags]
      · by_cases flagged : isFlag word = true
        · rw [conventional.flag program words flagged ends, ofWords?_cons_of_flag flagged ends]
        · have plain : isFlag word = false := Bool.eq_false_iff.2 flagged
          rw [conventional.operand program words full plain, ih,
            ofWords?_cons_of_plain full plain]

end ArgumentParser
end Backtrace
