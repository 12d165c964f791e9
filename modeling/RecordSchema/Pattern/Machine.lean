import RecordSchema.Pattern.Construction
import RecordSchema.Text.Octets
import Std.Data.HashMap

/-!
# The size of patterns

A pattern is searched for by a machine that reads octets. Counted repetitions are written out in it,
so a short pattern may need a large machine, and a pattern is refused when a machine for it takes
more than a fixed number of bytes. Two machines are made: one reads texts forward and keeps the
matches of groups, the other reads backward and keeps none.

Only the number of states and the length of the lists in them decide the size, so the construction
below counts states and makes none. It stops as soon as the limit is passed. States for the octets
of a set of characters are shared through tables with a fixed number of slots, in which a new entry
takes the place of an old one; which slot an entry takes is computed from the states it leads to.

## Main definitions

* `Machine.Tally`: the states and list entries counted so far.
* `Machine.build`: counting the states for a pattern.
* `Pattern.fitsMachine`: whether both machines stay within the limit.

## Termination

`Machine.build` descends on the pattern, the loops on a number of rounds or on a list.
-/

namespace RecordSchema

namespace Machine

/-- The greatest size of a machine in bytes. -/
def sizeLimit : Nat := 10485760

/-- What a machine under construction takes so far. -/
structure Tally where
  /-- The number of states; the next state has it as its number. -/
  states : Nat := 0
  /-- The bytes of the lists in states. -/
  listBytes : Nat := 0

/-- The size in bytes; every state takes 32 apart from its list. -/
def Tally.size (tally : Tally) : Nat := 32 * tally.states + tally.listBytes

/-- A step of the construction; it fails when the limit is passed. -/
abbrev Builder := StateT Tally Option

/-- Goes on with a tally unless it passes the limit. -/
def keep (tally : Tally) : Builder Unit :=
  if tally.size ≤ sizeLimit then set tally else failure

/-- Adds a state whose list takes the given bytes; the result is its number. -/
def addState (listBytes : Nat) : Builder Nat := do
  let tally ← get
  keep { states := tally.states + 1, listBytes := tally.listBytes + listBytes }
  return tally.states

/-- Adds a state without a list. -/
def addPlain : Builder Nat := addState 0

/-- Adds an entry to the list of a state that forks. -/
def addBranch : Builder Unit := do
  let tally ← get
  keep { tally with listBytes := tally.listBytes + 4 }

/-- Adds a state that goes over an octet in any of the given number of ranges. -/
def addRanges (count : Nat) : Builder Nat := addState (8 * count)

/-- A part of a machine. -/
structure Piece where
  /-- The number of its first state. -/
  first : Nat
  /-- Whether its last state forks, so that what follows is an entry of its list. -/
  forks : Bool := false

/-- Joins the end of a piece to what follows. -/
def join (piece : Piece) : Builder Unit :=
  if piece.forks then addBranch else return ()

/-- A piece that is one state. -/
def plainPiece : Builder Piece := do
  return { first := ← addPlain }

/-- One piece after the other. -/
def chain (one : Builder Piece) (other : Builder Piece) : Builder Piece := do
  let one ← one
  let other ← other
  join one
  return { other with first := one.first }

/-- A piece a number of times more. -/
def repeatAfter (act : Builder Piece) : Nat → Piece → Builder Piece
  | 0, done => return done
  | count + 1, done => do
    let more ← act
    join done
    repeatAfter act count { more with first := done.first }

/-- A piece a number of times. -/
def exactly (act : Builder Piece) : Nat → Builder Piece
  | 0 => plainPiece
  | count + 1 => do repeatAfter act count (← act)

/-- A piece at most the given number of times more, each time after a fork that can leave. -/
def optionalAfter (act : Builder Piece) : Nat → Piece → Builder Unit
  | 0, done => join done
  | count + 1, done => do
    let _ ← addPlain
    let more ← act
    join done
    addBranch
    addBranch
    optionalAfter act count more

/-- A piece any number of times; `mayBeEmpty` says that it may match the empty text. -/
def anyNumber (act : Builder Piece) (mayBeEmpty : Bool) : Builder Piece := do
  if mayBeEmpty then
    let once ← act
    let _ ← addPlain
    join once
    addBranch
    let question ← addPlain
    let _ ← addPlain
    addBranch
    addBranch
    addBranch
    return { first := question }
  else
    let fork ← addPlain
    let once ← act
    addBranch
    join once
    return { first := fork, forks := true }

/-- A piece at least once. -/
def onceOrMore (act : Builder Piece) : Builder Piece := do
  let once ← act
  let _ ← addPlain
  join once
  addBranch
  return { once with forks := true }

/-- A piece at least `least` and at most `most` times. -/
def repetition (act : Builder Piece) (mayBeEmpty : Bool) (least : Nat) (most : Option Nat) :
    Builder Piece := do
  match most with
  | none =>
    if least = 0 then anyNumber act mayBeEmpty
    else if least = 1 then onceOrMore act
    else chain (exactly act (least - 1)) (onceOrMore act)
  | some most =>
    if least = 0 && most = 1 then
      let fork ← addPlain
      let once ← act
      let _ ← addPlain
      addBranch
      addBranch
      join once
      return { first := fork }
    else
      let start ← exactly act least
      if least = most then return start
      let _ ← addPlain
      optionalAfter act (most - least) start
      return { first := start.first }

/-! ## Sets of characters -/

/-- The slot of a key, given as a list of numbers, in a table with the given number of slots. -/
def slot (slots : UInt64) (key : List Nat) : UInt64 :=
  (key.foldl (fun hash n => (hash ^^^ n.toUInt64) * 1099511628211) 14695981039346656037) % slots

/-- States that can be shared, each in the slot of its key. -/
abbrev SlotTable := Std.HashMap UInt64 (List Nat × Nat)

/-- The state with a key: the one in the table, or a new one that takes over the slot. -/
def shared (slots : UInt64) (key : List Nat) (add : Builder Nat) :
    StateT SlotTable Builder Nat := do
  let place := slot slots key
  match (← get)[place]? with
  | some (found, state) =>
    if found = key then return state
    let state ← add
    modify (·.insert place (key, state))
    return state
  | none =>
    let state ← add
    modify (·.insert place (key, state))
    return state

/-- A state for octets that is not finished: its ranges with the states after them, as one list of
numbers, and the range at hand. -/
structure OpenState where
  /-- First octet, last octet and following state of every range. -/
  ranges : List Nat := []
  /-- The range whose following state is not known yet. -/
  last : Option (Nat × Nat) := none

/-- Finishes the range at hand. -/
def OpenState.close (state : OpenState) (next : Nat) : OpenState :=
  match state.last with
  | some (first, last) => { ranges := state.ranges ++ [first, last, next] }
  | none => state

/-- The finished state, shared with an equal one. -/
def finish (ranges : List Nat) : StateT SlotTable Builder Nat :=
  shared 10000 ranges (addRanges (ranges.length / 3))

/-- Finishes a chain of states from its end; the result is the number of its first state. -/
def finishAll (target : Nat) : List OpenState → StateT SlotTable Builder Nat
  | [] => return target
  | state :: rest => do finish (state.close (← finishAll target rest)).ranges

/-- Finishes all but the first `kept` states of a chain, and the range at hand of the last kept
one. -/
def settle (target : Nat) : Nat → List OpenState → StateT SlotTable Builder (List OpenState)
  | _, [] => return []
  | 0, state :: rest => do return [state.close (← finishAll target rest)]
  | kept + 1, state :: rest => do return state :: (← settle target kept rest)

/-- How many ranges at the front are those at hand in the chain. -/
def sharedStart : List (Nat × Nat) → List OpenState → Nat
  | range :: ranges, state :: states =>
    if state.last = some range then sharedStart ranges states + 1 else 0
  | _, _ => 0

/-- The chain with the given ranges at hand from the last state on. -/
def extend : List OpenState → List (Nat × Nat) → List OpenState
  | [state], range :: ranges =>
    { state with last := some range } :: ranges.map fun range => { last := some range }
  | state :: rest, ranges => state :: extend rest ranges
  | [], _ => []

/-- Adds a sequence of octet ranges to the chain. Sequences come in increasing order. -/
def addSequence (target : Nat) (chain : List OpenState) (ranges : List (Nat × Nat)) :
    StateT SlotTable Builder (List OpenState) := do
  let kept := sharedStart ranges chain
  return extend (← settle target kept chain) (ranges.drop kept)

/-- The states for a set of characters in a machine that reads forward: the sequences that start
alike share their first states, those that end alike their last ones. -/
def forwardSet (set : CharSet) : Builder Piece := do
  let target ← addPlain
  let sequences := set.ranges.flatMap octetRanges
  let count : StateT SlotTable Builder Nat := do
    finishAll target (← sequences.foldlM (addSequence target) [{}])
  let (first, _) ← count.run {}
  return { first }

/-- The states for a sequence of octet ranges in a machine that reads backward; sequences that start
alike share states. -/
def backwardSequence (target : Nat) (ranges : List (Nat × Nat)) :
    StateT SlotTable Builder Unit := do
  let _ ← ranges.foldlM
    (fun following (first, last) => shared 1000 [following, first, last] addPlain) target
  addBranch

/-- The states for a set of characters in a machine that reads backward. -/
def backwardSet (set : CharSet) : Builder Piece := do
  let fork ← addPlain
  let target ← addPlain
  let sequences := set.ranges.flatMap octetRanges
  let _ ← (sequences.forM (backwardSequence target)).run {}
  return { first := fork }

/-- The states for a set of characters. -/
def setPiece (backward : Bool) (set : CharSet) : Builder Piece :=
  match set.ranges with
  | [] => plainPiece
  | [(first, last)] =>
    if first = last then
      match octets first with
      | [] => plainPiece
      | _ :: more => do repeatAfter plainPiece more.length (← plainPiece)
    else general
  | _ => general
where
  /-- The states for a set with more than one member. -/
  general : Builder Piece := do
    if set.isAscii then
      let _ ← addPlain
      return { first := ← addRanges set.ranges.length }
    else if backward then backwardSet set
    else forwardSet set

/-! ## Choices between words -/

/-- Words by their octets: the branches of a node in groups. A word that ends at the node ends a
group, so that branches after it come second. -/
inductive WordTree where
  /-- A node with the finished groups and the group at hand. -/
  | node (done : List (List (Nat × WordTree))) (current : List (Nat × WordTree))

namespace WordTree

/-- The tree without words. -/
def empty : WordTree := node [] []

/-- Whether a node has no branches. -/
def isLeaf : WordTree → Bool
  | node done current => done.all List.isEmpty && current.isEmpty

/-- Adds a word. -/
def insert : List Nat → WordTree → WordTree
  | [], node done current =>
    if (node done current).isLeaf && !done.isEmpty then node done current
    else node (done ++ [current]) []
  | octet :: rest, node done current =>
    match current.lookup octet with
    | some child =>
      node done (current.map fun branch =>
        if branch.1 = octet then (octet, insert rest child) else branch)
    | none => node done (current ++ [(octet, insert rest empty)])

/-- Adds the state for a group of the given number of branches. -/
def addGroup (count : Nat) : Builder Nat :=
  if count = 1 then addPlain else addRanges count

mutual

/-- Adds the states for a node with branches; the result is the number of the first one. -/
def build : WordTree → Builder Nat
  | node done current => do
    let finished ← buildGroups done
    buildBranches current
    if current.isEmpty then addState (4 * (finished + done.length))
    else
      let _ ← addGroup current.length
      addState (4 * (finished + done.length + 1))

/-- Adds the states for groups; the result is the number of those that are not empty. -/
def buildGroups : List (List (Nat × WordTree)) → Builder Nat
  | [] => return 0
  | group :: rest => do
    buildBranches group
    if group.isEmpty then buildGroups rest
    else
      let _ ← addGroup group.length
      return (← buildGroups rest) + 1

/-- Adds the states for the nodes after branches. -/
def buildBranches : List (Nat × WordTree) → Builder Unit
  | [] => return ()
  | (_, child) :: rest => do
    if !child.isLeaf then
      let _ ← build child
    buildBranches rest

end

end WordTree

/-- The states for a choice between words; a machine that reads backward meets each word's last
octet first. -/
def wordsPiece (backward : Bool) (words : List (List Nat)) : Builder Piece := do
  let _ ← addPlain
  let words := if backward then words.map List.reverse else words
  let tree := words.foldl (fun tree word => tree.insert word) WordTree.empty
  return { first := ← tree.build }

end Machine

namespace Pattern

/-- Whether every match takes a character; `none` when there can be no match. -/
def takesText? : Pattern → Option Bool
  | empty | anchor _ => some false
  | char set => if set.ranges.isEmpty then none else some true
  | group _ body => takesText? body
  | seq first second => do return (← takesText? first) || (← takesText? second)
  | alt left right => do return (← takesText? left) && (← takesText? right)
  | repeated body least _ _ => do return (← takesText? body) && least ≠ 0

/-- Whether the pattern matches at the start of the text only. -/
def isAnchored : Pattern → Bool
  | anchor condition => condition = .textStart
  | group _ body => isAnchored body
  | seq first second => isAnchored first || (first.matchesNoText && isAnchored second)
  | alt left right => isAnchored left && isAnchored right
  | repeated body least _ _ => least ≠ 0 && isAnchored body
  | _ => false

/-- The octets of a pattern that is a single word. -/
def word? (pattern : Pattern) : Option (List Nat) :=
  match pattern.items with
  | [] => none
  | items => (items.mapM singleCode?).map (·.flatMap octets)

end Pattern

namespace Machine

/-- Which branch of a choice a pattern is. -/
inductive Branch where
  /-- It is no branch. -/
  | alone
  /-- It stands for all branches after the first. -/
  | second (first : Piece)
  /-- It stands for some later branches; the fork has a number. -/
  | later (fork : Nat)

/-- Ties a piece to the choice that it is a branch of. The fork is made when the second branch is
there. -/
def Branch.tie (piece : Piece) : Branch → Builder Piece
  | alone => return piece
  | second first => do
    let fork ← addPlain
    let _ ← addPlain
    addBranch
    join first
    addBranch
    join piece
    return { first := fork }
  | later fork => do
    addBranch
    join piece
    return { first := fork }

/-- The states for a pattern in a machine that reads backward, or forward and keeps the matches of
groups. -/
def build (backward : Bool) : Pattern → Branch → Builder Piece
  | .empty, branch => do branch.tie (← plainPiece)
  | .anchor _, branch => do branch.tie (← plainPiece)
  | .char set, branch => do branch.tie (← setPiece backward set)
  | .group _ body, branch => do
    if backward then branch.tie (← build backward body .alone)
    else
      let first ← addPlain
      let inner ← build backward body .alone
      let _ ← addPlain
      join inner
      branch.tie { first }
  | .seq one other, branch => do
    let one := build backward one .alone
    let other := build backward other .alone
    branch.tie (← if backward then chain other one else chain one other)
  | .repeated body least most _, branch => do
    let mayBeEmpty := body.takesText? ≠ some true
    branch.tie (← repetition (build backward body .alone) mayBeEmpty least most)
  | .alt left right, branch => do
    match branch, ((Pattern.alt left right).branches.mapM Pattern.word? : Option _) with
    | .alone, some words => wordsPiece backward words
    | .alone, none =>
      let first ← build backward left .alone
      build backward right (.second first)
    | branch, _ =>
      let piece ← build backward left .alone
      let fork ← branch.tie piece
      build backward right (.later fork.first)

/-- The states that go over the text before a match. -/
def skipPiece : Builder Piece := do
  let fork ← addPlain
  let _ ← addPlain
  let _ ← addRanges 1
  addBranch
  return { first := fork, forks := true }

/-- The states for a whole search: those that go over the text before a match, unless a match
starts with the text, those for the pattern, and the one at which a match is found. -/
def buildSearch (backward : Bool) (pattern : Pattern) : Builder Unit := do
  let start ← if pattern.isAnchored then plainPiece else skipPiece
  join (← build backward (.group 0 pattern) .alone)
  let _ ← addPlain
  join start

end Machine

/-- Whether the machines for a pattern stay within the limit. -/
def Pattern.fitsMachine (pattern : Pattern) : Bool :=
  [false, true].all fun backward => ((Machine.buildSearch backward pattern).run {}).isSome

end RecordSchema
