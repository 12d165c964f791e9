/-!
# Readers of text

A reader goes over the characters of a text from the front. Its state is the text to come, and it
may fail, which ends the whole reading.

## Main definitions

* `Reader`: the steps of reading.
* `Reader.accept`, `Reader.takeRun`: going over given characters and over runs of a kind.
* `Reader.readAll?`: what a reader makes of a whole text.

## Main statements

* `Reader.run_accept`: what accepting a word does.
-/

namespace RecordSchema

/-- A step of reading; its state is the text to come, and it may fail. -/
abbrev Reader := StateT (List Char) Option

namespace Reader

/-- Goes over the given characters if they come next. -/
def accept (word : List Char) : Reader Bool :=
  modifyGet fun s => if word.isPrefixOf s then (true, s.drop word.length) else (false, s)

/-- Goes over the given characters, which have to come next. -/
def expect (word : List Char) : Reader Unit := do
  if !(← accept word) then failure

/-- Takes the characters of a kind up to the first one of another kind. -/
def takeRun (isKind : Char → Bool) : Reader (List Char) :=
  modifyGet fun s => (s.takeWhile isKind, s.dropWhile isKind)

/-- Goes over the characters of a kind. -/
def skipRun (isKind : Char → Bool) : Reader Unit :=
  modify (List.dropWhile isKind)

/-- Takes the next character. -/
def next : Reader Char := do
  match ← get with
  | [] => failure
  | c :: rest => set rest; return c

/-- What a reader makes of a whole text; nothing may be left over. -/
def readAll? {α : Type} (reader : Reader α) (text : List Char) : Option α :=
  match reader.run text with
  | some (result, []) => some result
  | _ => none

/-- Accepting a word takes it off the front, or else leaves the text as it is. -/
theorem run_accept (word s : List Char) : (accept word).run s =
    some (if word.isPrefixOf s then (true, s.drop word.length) else (false, s)) :=
  rfl

end Reader

end RecordSchema
