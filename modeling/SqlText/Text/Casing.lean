import SqlText.Text.Casing.Tables
import SqlText.Text.Ranges

/-!
# Casing — full upper and lower case of a text

Modifier values are written in upper case and verbs are looked up in lower case.
Both mappings are the *full* ones: a character may turn into several, such as the
sharp s into two letters, and nothing depends on a locale.

Upper-casing goes character by character. Lower-casing does too, but for the
capital sigma, whose form depends on its neighbours: it is final when a cased
letter stands before it and none after it, characters of a passed-over class not
counted (`sigmaIsFinal`). `lowerFrom` therefore carries what stands before.
-/

namespace SqlText.Text

open Casing

/-- The code points that `code` becomes under a table of runs and expansions. -/
def Casing.mapCode (runs : List Run) (expansions : List (Nat × List Nat)) (code : Nat) : List Nat :=
  match expansions.lookup code with
  | some codes => codes
  | none =>
    match runs.find? (·.covers code) with
    | some run => [run.image code]
    | none => [code]

-- ── Upper case ────────────────────────────────────────────────────────────────

/-- The upper case of one character, a text of one to three characters. -/
def upperChar (c : Char) : List Char :=
  (mapCode upperRuns upperExpansions c.toNat).map Char.ofNat

/-- The text in upper case. -/
def upper (text : String) : String :=
  String.ofList (text.toList.flatMap upperChar)

example : upper "straße" = "STRASSE" := by decide +kernel

-- ── Lower case ────────────────────────────────────────────────────────────────

/-- A character passed over when the neighbours of a sigma are looked at. -/
def isCaseIgnorable (c : Char) : Bool :=
  inRanges caseIgnorableRanges c.toNat

/-- A cased character that is not passed over. -/
def isCased (c : Char) : Bool :=
  inRanges casedRanges c.toNat

/-- Whether the first character that is not passed over is cased. -/
def meetsCased (neighbours : List Char) : Bool :=
  (neighbours.dropWhile isCaseIgnorable).head?.any isCased

/-- Whether a sigma stands at the end of a word: `before` lists what precedes it, the
    nearest character first, and `after` what follows it. -/
def sigmaIsFinal (before after : List Char) : Bool :=
  meetsCased before && !meetsCased after

/-- The capital sigma. -/
def capitalSigma : Char := 'Σ'

/-- The lower case of one character whose neighbours do not matter. -/
def lowerChar (c : Char) : List Char :=
  (mapCode lowerRuns lowerExpansions c.toNat).map Char.ofNat

/-- The lower case of the second list where the first precedes it, nearest first. -/
def lowerFrom (before : List Char) : List Char → List Char
  | [] => []
  | c :: after =>
    (if c = capitalSigma then (if sigmaIsFinal before after then ['ς'] else ['σ'])
     else lowerChar c) ++ lowerFrom (c :: before) after

/-- The text in lower case. -/
def lower (text : String) : String :=
  String.ofList (lowerFrom [] text.toList)

example : lower "ΟΔΟΣ ΣΟΦΙΑΣ" = "οδος σοφιας" := by decide +kernel

end SqlText.Text
