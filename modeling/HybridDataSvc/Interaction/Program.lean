import Mathlib.Data.List.Basic

namespace Interaction

universe u v w x

/-!
# Programs that ask their surroundings

A program gives commands and goes on with what it is answered.  The surroundings are
not described: an answer may depend on everything that happened before, or on nothing.
So the runs of a program are the paths through the tree of its commands, and a fact
about its runs is a fact about the events on every path.
-/

variable {Command : Type u} {Answer : Command -> Type v} {Result : Type w} {Next : Type w}

inductive Program (Command : Type u) (Answer : Command -> Type v) (Result : Type w)
  | done (result : Result)
  | ask (command : Command) (next : Answer command -> Program Command Answer Result)

/-- A command with its answer. -/
abbrev Event (Answer : Command -> Type v) := (command : Command) × Answer command

/-- The surroundings: the answer to a command after the events so far. -/
abbrev World (Answer : Command -> Type v) :=
  List (Event Answer) -> (command : Command) -> Answer command

namespace Program

def bind : Program Command Answer Result -> (Result -> Program Command Answer Next) ->
    Program Command Answer Next
  | .done result, after => after result
  | .ask command next, after => .ask command (fun answer => (next answer).bind after)

instance : Monad (Program Command Answer) where
  pure := .done
  bind := bind

/-- The program of one command. -/
def request (command : Command) : Program Command Answer (Answer command) := .ask command .done

/-- The run of a program after the events so far: the events that it adds, and its
result. -/
def run (world : World Answer) :
    Program Command Answer Result -> List (Event Answer) -> List (Event Answer) × Result
  | .done result, _ => ([], result)
  | .ask command next, earlier =>
    let answer := world earlier command
    let rest := (next answer).run world (earlier ++ [⟨command, answer⟩])
    (⟨command, answer⟩ :: rest.1, rest.2)

end Program

/-! ## Paths -/

/-- The events and the result of a way through a program. -/
inductive Path : Program Command Answer Result -> List (Event Answer) -> Result -> Prop
  | done (result : Result) : Path (.done result) [] result
  | ask {command : Command} {next : Answer command -> Program Command Answer Result}
      {events : List (Event Answer)} {result : Result} (answer : Answer command)
      (rest : Path (next answer) events result) :
      Path (.ask command next) (⟨command, answer⟩ :: events) result

/-- Every run is a path. -/
theorem path_run (world : World Answer) (program : Program Command Answer Result)
    (earlier : List (Event Answer)) :
    Path program (program.run world earlier).1 (program.run world earlier).2 := by
  induction program generalizing earlier with
  | done result => exact Path.done result
  | ask command next ih => exact Path.ask _ (ih _ _)

/-- An answer of a run is the world's. -/
theorem answer_of_mem_run {world : World Answer} {program : Program Command Answer Result}
    {earlier : List (Event Answer)} {command : Command} {answer : Answer command}
    (member : ⟨command, answer⟩ ∈ (program.run world earlier).1) :
    exists past, answer = world past command := by
  induction program generalizing earlier with
  | done result => cases member
  | ask asked next ih =>
      rcases List.mem_cons.mp member with same | later
      · cases same
        exact ⟨earlier, rfl⟩
      · exact ih _ later

section Rules

variable {events : List (Event Answer)} {result : Result}

theorem path_done_iff (value : Result) :
    Path (.done value : Program Command Answer Result) events result ↔
      events = [] ∧ result = value := by
  constructor
  · intro path
    cases path
    exact ⟨rfl, rfl⟩
  · rintro ⟨rfl, rfl⟩
    exact Path.done result

@[simp] theorem path_pure_iff (value : Result) :
    Path (pure value : Program Command Answer Result) events result ↔
      events = [] ∧ result = value := path_done_iff value

theorem path_ask_iff (command : Command)
    (next : Answer command -> Program Command Answer Result) :
    Path (.ask command next) events result ↔
      exists answer rest, events = ⟨command, answer⟩ :: rest ∧ Path (next answer) rest result := by
  constructor
  · intro path
    cases path with
    | ask answer rest => exact ⟨answer, _, rfl, rest⟩
  · rintro ⟨answer, rest, rfl, path⟩
    exact Path.ask answer path

/-- A path through two programs is one through the first and then one through the
second. -/
@[simp] theorem path_bind_iff {Before : Type w} (program : Program Command Answer Before)
    (after : Before -> Program Command Answer Result) :
    Path (program >>= after) events result ↔
      exists first value second, events = first ++ second ∧ Path program first value ∧
        Path (after value) second result := by
  change Path (program.bind after) events result ↔ _
  induction program generalizing events with
  | done value =>
      constructor
      · intro path
        exact ⟨[], value, events, rfl, Path.done value, path⟩
      · rintro ⟨first, known, second, rfl, path, later⟩
        rcases (path_done_iff value).mp path with ⟨rfl, rfl⟩
        exact later
  | ask command next ih =>
      constructor
      · intro whole
        rcases (path_ask_iff command _).mp whole with ⟨answer, rest, rfl, path⟩
        rcases (ih answer).mp path with ⟨first, value, second, rfl, inside, later⟩
        exact ⟨_ :: first, value, second, rfl, Path.ask answer inside, later⟩
      · rintro ⟨first, value, second, rfl, inside, later⟩
        rcases (path_ask_iff command _).mp inside with ⟨answer, rest, rfl, path⟩
        exact Path.ask answer ((ih answer).mpr ⟨rest, value, second, rfl, path, later⟩)

end Rules

/-- The path through one command. -/
@[simp] theorem path_request_iff (command : Command) (events : List (Event Answer))
    (answer : Answer command) :
    Path (Program.request command) events answer ↔ events = [⟨command, answer⟩] := by
  rw [Program.request, path_ask_iff]
  constructor
  · rintro ⟨given, rest, rfl, path⟩
    rcases (path_done_iff given).mp path with ⟨rfl, rfl⟩
    rfl
  · rintro rfl
    exact ⟨answer, [], rfl, Path.done answer⟩

/-! ## What comes before an event -/

variable {Item : Type x} {past : List Item -> Item -> Prop} {first second : List Item}

/-- Every event has the past that it needs. -/
def Preceded (past : List Item -> Item -> Prop) (events : List Item) : Prop :=
  forall before event after, events = before ++ event :: after -> past before event

theorem preceded_nil (past : List Item -> Item -> Prop) : Preceded past [] := by
  intro before event after split
  simp at split

theorem preceded_of_forall {events : List Item}
    (always : forall event, event ∈ events -> forall before, past before event) :
    Preceded past events := by
  rintro before event after rfl
  exact always event (by simp) before

theorem preceded_cons_iff {event : Item} {rest : List Item} :
    Preceded past (event :: rest) ↔
      past [] event ∧ Preceded (fun before => past (event :: before)) rest := by
  constructor
  · intro preceded
    refine ⟨preceded [] event rest rfl, ?_⟩
    rintro before other after rfl
    exact preceded (event :: before) other after rfl
  · rintro ⟨needed, later⟩ before other after split
    cases before with
    | nil =>
        cases split
        exact needed
    | cons head inside =>
        cases split
        exact later inside other after rfl

/-- Two lists after one another, where an event of the second may count on the whole
first one. -/
theorem Preceded.append_of_first (one : Preceded past first)
    (other : Preceded (fun before event => past (first ++ before) event) second) :
    Preceded past (first ++ second) := by
  intro before event after split
  rcases List.append_eq_append_iff.mp split with ⟨inside, rfl, same⟩ | ⟨inside, rfl, same⟩
  · exact other inside event after same
  · cases inside with
    | nil =>
        have needed := other [] event after same.symm
        simpa using needed
    | cons head rest =>
        cases same
        exact one before event rest rfl

/-- A past that may be longer is kept when lists are joined. -/
theorem Preceded.append
    (longer : forall earlier before event, past before event -> past (earlier ++ before) event)
    (one : Preceded past first) (other : Preceded past second) :
    Preceded past (first ++ second) :=
  one.append_of_first (fun before event after split =>
    longer first before event (other before event after split))

end Interaction
