import RecordSchema.Pattern.Basic

/-!
# Building patterns

Patterns are kept short while they are built: nested sequences and choices are flattened, a choice
between single characters or between sets becomes one set, what all branches of a choice start with
is moved before it, and repetitions that cannot matter are dropped. None of this changes what a
pattern matches.

## Main definitions

* `Pattern.sequence`, `Pattern.choice`, `Pattern.repetition`: the three ways to join patterns.
* `Pattern.matchesNoText`: whether a pattern matches the empty text only.
-/

namespace RecordSchema

namespace Pattern

/-- Whether the pattern cannot match a character. -/
def matchesNoText : Pattern → Bool
  | empty | anchor _ => true
  | char _ => false
  | group _ body => matchesNoText body
  | seq first second => matchesNoText first && matchesNoText second
  | alt left right => matchesNoText left && matchesNoText right
  | repeated body _ _ _ => matchesNoText body

/-- The patterns one after the other, sequences among them flattened. -/
def sequence (patterns : List Pattern) : Pattern :=
  ofItems (patterns.flatMap items)

/-- The pattern a number of times; what matches no text is matched once at most. -/
def repetition (body : Pattern) (least : Nat) (most : Option Nat) (eager : Bool) : Pattern :=
  let (least, most) :=
    if matchesNoText body then (min least 1, some (min (most.getD 1) 1)) else (least, most)
  if least = 0 && most = some 0 then empty
  else if least = 1 && most = some 1 then body
  else repeated body least most eager

/-- The branches as one set, if all are single characters or none is and all are sets. -/
def mergedSet? (patterns : List Pattern) : Option CharSet :=
  let sets := patterns.filterMap fun
    | char set => some set
    | _ => none
  let singles := patterns.filterMap singleCode?
  if sets.length = patterns.length && (singles.length = patterns.length || singles.isEmpty) then
    some (.unions sets)
  else none

/-- A choice without a common start being looked for. -/
def plainChoice (patterns : List Pattern) : Pattern :=
  match patterns with
  | [p] => p
  | patterns =>
    match mergedSet? patterns with
    | some set => char set
    | none => ofBranches patterns

/-- The items of a sequence with single characters in a row taken together; `word` holds those at
hand in reverse. -/
def pieces (word : List Pattern) : List Pattern → List Pattern
  | [] => if word.isEmpty then [] else [ofItems word.reverse]
  | p :: rest =>
    if p.singleCode?.isSome then pieces (p :: word) rest
    else if word.isEmpty then p :: pieces [] rest
    else ofItems word.reverse :: p :: pieces [] rest

/-- What two lists start with. -/
def commonStart : List Pattern → List Pattern → List Pattern
  | p :: ps, q :: qs => if p = q then p :: commonStart ps qs else []
  | _, _ => []

/-- The branches with what all start with moved before the choice, if all are sequences of at
least two pieces and there is such a start. -/
def factored? (patterns : List Pattern) : Option Pattern :=
  let lists := patterns.map fun p => pieces [] p.items
  if lists.all (2 ≤ ·.length) then
    match lists with
    | [] => none
    | first :: more =>
      let start := more.foldl commonStart first
      if start.isEmpty then none
      else
        let ends := lists.map fun list => sequence (list.drop start.length)
        some (sequence (start ++ [plainChoice (ends.flatMap branches)]))
  else none

/-- Any one of the patterns, choices among them flattened. -/
def choice (patterns : List Pattern) : Pattern :=
  match patterns.flatMap branches with
  | [p] => p
  | patterns =>
    match mergedSet? patterns with
    | some set => char set
    | none => (factored? patterns).getD (ofBranches patterns)

end Pattern

end RecordSchema
