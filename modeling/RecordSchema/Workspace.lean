import RecordSchema.Entries

/-!
# The surroundings of a run

A run reads files by name and environment variables. A name is made of segments between slashes,
and it is followed from the directory where the run starts, or from the top when it starts with a
slash: `.` stays where it is, `..` goes up, and every segment but the last one has to lead to a
directory that is there. So a name that ends in a slash is the name of a directory.

A directory is there when it is known to be, when something lies below it, and when it is above the
start.

## Main definitions

* `Place.ofName`: the place that a name leads to when all directories on its way are there.
* `Workspace.locate?`: the place that a name leads to.
* `Workspace.read?`: the text of a file.
* `Workspace.write?`: the surroundings after a file was written, if it can be written.

## Main statements

* `Workspace.read?_of_write?`: what is read back after a write.

## Termination

Names are followed segment by segment.
-/

namespace RecordSchema

/-- A place among the files: the directories that lead to it and its own name. -/
abbrev Place := List String

namespace Place

/-- The place one segment further on. -/
def step (here : Place) (segment : String) : Place :=
  if segment = "" || segment = "." then here
  else if segment = ".." then
    match here.getLast? with
    | none | some ".." => here ++ [".."]
    | some "/" => here
    | some _ => here.dropLast
  else here ++ [segment]

/-- The segments of a name. -/
def segments (name : String) : List String :=
  (name.toList.splitOn '/').map String.ofList

/-- Where a name starts: at the top or in the directory of the run. -/
def start (name : String) : Place :=
  if name.toList.head? = some '/' then ["/"] else []

/-- The place of a name when all directories on its way are there. -/
def ofName (name : String) : Place :=
  (segments name).foldl step (start name)

/-- The places that segments lead through, without the one that they lead to. -/
def passed (here : Place) : List String → List Place
  | [] => []
  | segment :: rest => here :: passed (here.step segment) rest

/-- Whether a segment can be part of a name: it has at most 255 octets, and none is zero. -/
def isSegment (segment : String) : Bool :=
  segment.utf8ByteSize ≤ 255 && !segment.toList.contains '\x00'

end Place

/-- What a run sees. -/
structure Workspace where
  /-- The files and their texts. -/
  files : List (Place × String) := []
  /-- Directories that are known to be there. -/
  directories : List Place := []
  /-- The environment variables. -/
  environment : List (String × String) := []
  /-- The directory of the user's own settings. -/
  userDirectory : String := ""

namespace Workspace

/-- The surroundings with these named files and directories. The directories on the way to a file
are there. -/
def ofFiles (files : List (String × String)) (directories : List String)
    (environment : List (String × String)) (userDirectory : String) : Workspace where
  files := files.map fun (name, text) => (Place.ofName name, text)
  directories := directories.map Place.ofName
    ++ files.flatMap fun (name, _) => Place.passed (Place.start name) (Place.segments name)
  environment := environment
  userDirectory := userDirectory

/-- Whether a directory is there. -/
def hasDirectory (workspace : Workspace) (place : Place) : Bool :=
  place = ["/"] || place.all (· = "..")
    || workspace.directories.any (fun directory => place.isPrefixOf directory)
    || workspace.files.any fun (file, _) => place.isPrefixOf file && place.length < file.length

/-- The place that segments lead to from a directory that is there. -/
def follow? (workspace : Workspace) (here : Place) : List String → Option Place
  | [] => some here
  | [segment] => if Place.isSegment segment then some (here.step segment) else none
  | segment :: rest =>
    if Place.isSegment segment && workspace.hasDirectory (here.step segment) then
      follow? workspace (here.step segment) rest
    else none

/-- The place that a name leads to. -/
def locate? (workspace : Workspace) (name : String) : Option Place :=
  if name.isEmpty then none else workspace.follow? (Place.start name) (Place.segments name)

/-- The text of the file with a name. -/
def read? (workspace : Workspace) (name : String) : Option String :=
  (workspace.locate? name).bind fun place => workspace.files.lookup place

/-- Whether a name leads to a file or a directory. -/
def has (workspace : Workspace) (name : String) : Bool :=
  (workspace.read? name).isSome || ((workspace.locate? name).map workspace.hasDirectory).getD false

/-- The surroundings with a file in a place. -/
def put (workspace : Workspace) (place : Place) (text : String) : Workspace :=
  { workspace with files := (place, text) :: workspace.files.filter fun file => file.1 ≠ place }

/-- The surroundings after a file was written: its name must not lead to a directory. -/
def write? (workspace : Workspace) (name text : String) : Option Workspace := do
  let place ← workspace.locate? name
  if workspace.hasDirectory place then none else some (workspace.put place text)

/-- No directory vanishes when a file is put in a place. -/
theorem hasDirectory_put {workspace : Workspace} {other : Place}
    (h : workspace.hasDirectory other = true) (place : Place) (text : String) :
    (workspace.put place text).hasDirectory other = true := by
  unfold hasDirectory at h ⊢
  simp only [put, Bool.or_eq_true, List.any_eq_true, Bool.and_eq_true, decide_eq_true_eq] at h ⊢
  rcases h with h | ⟨file, hf, hp⟩
  · exact Or.inl h
  · refine Or.inr ?_
    by_cases hq : file.1 = place
    · exact ⟨(place, text), List.mem_cons_self, hq ▸ hp⟩
    · exact ⟨file, List.mem_cons_of_mem _ (List.mem_filter.2 ⟨hf, by simpa using hq⟩), hp⟩

/-- Segments lead to the same place after a file was put in a place. -/
theorem follow?_put {workspace : Workspace} {segments : List String} {here found : Place}
    (h : workspace.follow? here segments = some found) (place : Place) (text : String) :
    (workspace.put place text).follow? here segments = some found := by
  induction segments generalizing here with
  | nil => simpa [follow?] using h
  | cons segment rest ih =>
    cases rest with
    | nil => simpa [follow?] using h
    | cons next rest =>
      simp only [follow?] at h ⊢
      split at h
      · rename_i hc
        simp only [Bool.and_eq_true] at hc
        simp only [hc.1, hasDirectory_put hc.2, Bool.and_self, if_true]
        exact ih h
      · cases h

theorem locate?_put {workspace : Workspace} {name : String} {found : Place}
    (h : workspace.locate? name = some found) (place : Place) (text : String) :
    (workspace.put place text).locate? name = some found := by
  unfold locate? at h ⊢
  split at h
  · cases h
  · rename_i hn
    rw [if_neg hn]
    exact follow?_put h place text

theorem read?_of_write? {workspace after : Workspace} {name text : String}
    (h : workspace.write? name text = some after) : after.read? name = some text := by
  unfold write? at h
  cases hp : workspace.locate? name with
  | none => simp [hp] at h
  | some place =>
    simp only [hp, Option.bind_eq_bind, Option.bind_some] at h
    split at h
    · cases h
    · cases h
      rw [read?, locate?_put hp]
      simp [put]

end Workspace

end RecordSchema
