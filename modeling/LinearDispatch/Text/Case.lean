import LinearDispatch.Text.CaseTable

/-!
# Lower and upper case

Case mapping of whole texts over the whole character set: a letter may become several, and a
capital sigma becomes the final form at the end of a word, so the lower case of a character
depends on the characters around it. Names of backends are compared in the form `foldName`.
-/

namespace LinearDispatch.Text

/-- The case of one character: its expansion if it has one, else where its run moves it. -/
def mapCase (expansions : List (Nat × List Nat)) (runs : List CaseRun) (c : Char) : List Char :=
  match expansions.lookup c.toNat with
  | some codes => codes.map Char.ofNat
  | none => [((runs.findSome? (·.target? c.toNat)).map Char.ofNat).getD c]

def lowerChar (c : Char) : List Char :=
  mapCase lowerExpansions lowerRuns c

def upperChar (c : Char) : List Char :=
  mapCase upperExpansions upperRuns c

/-- The nearest character that is not passed over has a case. -/
def nextIsCased (cs : List Char) : Bool :=
  (cs.dropWhile caseIgnorableRanges.has).head?.any casedRanges.has

/-- The lower case of `c` between `before` (nearest first) and `after`: a capital sigma ends a
word when a cased letter comes before it and none after it. -/
def lowerBetween (before : List Char) (c : Char) (after : List Char) : List Char :=
  if c = 'Σ' then
    [if nextIsCased before && !nextIsCased after then 'ς' else 'σ']
  else
    lowerChar c

/-- The lower case of the characters that follow `before` (nearest first). -/
def lowerAfter (before : List Char) : List Char → List Char
  | [] => []
  | c :: rest => lowerBetween before c rest ++ lowerAfter (c :: before) rest

def lower (s : String) : String :=
  String.ofList (lowerAfter [] s.toList)

def upper (s : String) : String :=
  String.ofList (s.toList.flatMap upperChar)

/-- The case of a character at the beginning of a sentence: its own, if it has one, else the upper
case. -/
def titleChar (c : Char) : List Char :=
  match titleExpansions.lookup c.toNat, titleRuns.findSome? (·.target? c.toNat) with
  | some codes, _ => codes.map Char.ofNat
  | none, some code => [Char.ofNat code]
  | none, none => upperChar c

/-- A text as the beginning of a sentence: all but its first character in lower case. -/
def capitalize (s : String) : String :=
  match s.toList with
  | [] => s
  | c :: rest => String.ofList (titleChar c ++ lowerAfter [c] rest)

/-- The form in which two spellings of one name are the same: no blanks at the ends, lower
case. -/
def foldName (s : String) : String :=
  lower (strip s)

/-! A word ends in the final form of sigma, and a letter can become two. -/

example : lower "ΟΔΟΣ ΣΑΣ" = "οδος σας" := by decide +kernel
example : lower "İ" = "i̇" := by decide +kernel
example : upper "straße" = "STRASSE" := by decide +kernel
example : capitalize "oPTIMAL" = "Optimal" := by decide +kernel
example : capitalize "ǆa" = "ǅa" ∧ capitalize "ᾳΑΣ" = "ᾼας" := by decide +kernel
example : foldName " Scip\n" = "scip" := by decide +kernel

end LinearDispatch.Text
