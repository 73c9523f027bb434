import Kaleido.Scope.Script
import Mathlib.Data.List.Forall2

/-!
# Frames that are closed again

Work inside a frame of its own can open and close other frames, bind names in whatever frame is the
innermost, and end early. What a name means at each of its steps can be told without a stack, by
going back through what has happened since the frame was opened. Main statement: if the frames that
the work opens by hand match those that it closes, its run comes to what has been told; at each step
the frame is open and those outside are unchanged, and the scope is afterwards what it was before.
-/
namespace Kaleido.Scope

variable {α : Type}

/-! ## Scripts that match -/

/-- That a script closes the frames that are open by hand at its start, so many of them, and those
that it opens itself, and no others. Where it can end early, none of them is open. -/
inductive Matched : Nat → List (Action α) → Prop where
  | nil : Matched 0 []
  | push {opened : Nat} {frame : Frame α} {rest : List (Action α)}
      (later : Matched (opened + 1) rest) : Matched opened (.push frame :: rest)
  | pop {opened : Nat} {rest : List (Action α)} (later : Matched opened rest) :
      Matched (opened + 1) (.pop :: rest)
  | declare {opened : Nat} {name : String} {value : α} {rest : List (Action α)}
      (later : Matched opened rest) : Matched opened (.declare name value :: rest)
  | get {opened : Nat} {name : String} {rest : List (Action α)} (later : Matched opened rest) :
      Matched opened (.get name :: rest)
  | require {name : String} {rest : List (Action α)} (later : Matched 0 rest) :
      Matched 0 (.require name :: rest)
  | within {opened : Nat} {frame : Frame α} {script rest : List (Action α)} {required : Bool}
      (inner : Matched 0 script) (early : required → opened = 0) (later : Matched opened rest) :
      Matched opened (.within frame script required :: rest)

/-! ## What has happened -/

/-- What can happen to the frames and the bindings of a scope. -/
inductive Event (α : Type) where
  | opened (frame : Frame α)
  | closed
  | bound (name : String) (value : α)
  /-- All frames are closed. -/
  | cleared

/-- What a name means after events, the last of which comes first: its last binding in the innermost
frame still open that has one, or else what it means outside. On the way back, the number is that of
the closed frames whose opening is still to come; what happened in them is passed over. -/
def meaningAfter (outside : Scope α) (name : String) : List (Event α) → Nat → Option α
  | [], _ => outside.find? name
  | .cleared :: _, _ => none
  | .closed :: earlier, closed => meaningAfter outside name earlier (closed + 1)
  | .opened _ :: earlier, closed + 1 => meaningAfter outside name earlier closed
  | .opened frame :: earlier, 0 => (frame.find? name).or (meaningAfter outside name earlier 0)
  | .bound _ _ :: earlier, closed + 1 => meaningAfter outside name earlier (closed + 1)
  | .bound declared value :: earlier, 0 =>
    if name = declared then some value else meaningAfter outside name earlier 0

/-- What work comes to: its operations in the order in which they end, each with the events up to
its end; whether the list that it stands in goes on; and all events, the last of which comes
first. -/
structure Course (α : Type) where
  steps : List (Action α × List (Event α))
  goesOn : Bool
  log : List (Event α)

mutual

/-- The course of an operation after events. There are no frames in it: a lookup asks the events. -/
def Action.course (outside : Scope α) : Action α → List (Event α) → Course α
  | .push frame, log => single (.push frame) (.opened frame :: log)
  | .pop, log => single .pop (.closed :: log)
  | .declare name value, log => single (.declare name value) (.bound name value :: log)
  | .get name, log => single (.get name) log
  | .require name, log =>
    ⟨[(.require name, log)], (meaningAfter outside name log 0).isSome, log⟩
  | .clear, log => single .clear (.cleared :: log)
  | .within frame script required, log =>
    let inner := courseAll outside script (.opened frame :: log)
    ⟨inner.steps ++ [(.within frame script required, .closed :: inner.log)],
      inner.goesOn || !required, .closed :: inner.log⟩
where
  /-- One step, after which the list goes on. -/
  single (action : Action α) (log : List (Event α)) : Course α := ⟨[(action, log)], true, log⟩

/-- The course of a script after events. -/
def courseAll (outside : Scope α) : List (Action α) → List (Event α) → Course α
  | [], log => ⟨[], true, log⟩
  | action :: rest, log =>
    let first := action.course outside log
    if first.goesOn then
      let later := courseAll outside rest first.log
      ⟨first.steps ++ later.steps, later.goesOn, later.log⟩
    else first

end

/-- The name that an operation looks up. -/
def Action.looksUp? : Action α → Option String
  | .get name => some name
  | .require name => some name
  | _ => none

/-- What is reported of a step of work inside a frame of its own, with the events since the frame
was opened. -/
structure Accounts (outside : Scope α) (step : Action α × List (Event α)) (report : Report α) :
    Prop where
  /-- The frame is still open. -/
  deep : outside.depth + 1 ≤ report.depth
  /-- The frames outside are as they were. -/
  unchanged : ∃ inner, report.scope.frames = inner ++ outside.frames
  /-- A name means its last binding in the innermost frame still open that has one, or else what it
  means outside. -/
  finds : ∀ name, report.scope.find? name = meaningAfter outside name step.2 0
  /-- A lookup answers with this meaning. -/
  answers : ∀ name, step.1.looksUp? = some name →
    report.answer = .value (meaningAfter outside name step.2 0)

/-! ## Frames and events -/

/-- A scope with more frames opened in it, the innermost of which comes first. -/
def pushAll (scope : Scope α) (inner : List (Frame α)) : Scope α := ⟨inner ++ scope.frames⟩

/-- That events tell what names mean inside of open frames, and when some of these are closed, which
brings back what they hid. -/
def Tells (outside : Scope α) (log : List (Event α)) (inner : List (Frame α)) : Prop :=
  ∀ name closed, closed ≤ inner.length →
    meaningAfter outside name log closed = (outside.pushAll (inner.drop closed)).find? name

section
variable {outside : Scope α} {log : List (Event α)} {frame : Frame α} {inner : List (Frame α)}

namespace Tells

theorem nothing (outside : Scope α) : Tells outside [] [] := fun _ _ _ => by
  rw [List.drop_nil]
  rfl

theorem opened (tells : Tells outside log inner) (frame : Frame α) :
    Tells outside (.opened frame :: log) (frame :: inner) := by
  intro name closed few
  cases closed with
  | zero =>
    rw [meaningAfter, tells name 0 (Nat.zero_le _)]
    exact (find?_push _ frame name).symm
  | succ closed =>
    rw [meaningAfter]
    exact tells name closed (Nat.le_of_succ_le_succ few)

theorem closed (tells : Tells outside log (frame :: inner)) :
    Tells outside (.closed :: log) inner := by
  intro name closed few
  rw [meaningAfter]
  exact tells name (closed + 1) (Nat.succ_le_succ few)

theorem bound (tells : Tells outside log (frame :: inner)) (declared : String) (value : α) :
    Tells outside (.bound declared value :: log) (frame.insert declared value :: inner) := by
  intro name closed few
  cases closed with
  | zero =>
    have changed : outside.pushAll (frame.insert declared value :: inner) =
        (outside.pushAll (frame :: inner)).declare declared value := rfl
    rw [meaningAfter, tells name 0 (Nat.zero_le _), List.drop_zero, List.drop_zero, changed,
      find?_declare]
  | succ closed =>
    rw [meaningAfter]
    exact tells name (closed + 1) few

end Tells

/-- That a run comes to a course, and to certain frames inside of those outside. -/
structure ComesTo (outside : Scope α) (ran : (List (Report α) × Bool) × Scope α)
    (course : Course α) (inner : List (Frame α)) : Prop where
  reports : List.Forall₂ (Accounts outside) course.steps ran.1.1
  goesOn : ran.1.2 = course.goesOn
  scope : ran.2 = outside.pushAll inner
  tells : Tells outside course.log inner

/-- A step that ends with a frame open is accounted for, if a lookup answers with what it finds. -/
theorem Tells.accounts (tells : Tells outside log (frame :: inner)) {action : Action α}
    {answer : Answer α}
    (answers : ∀ name, action.looksUp? = some name →
      answer = .value ((outside.pushAll (frame :: inner)).find? name)) :
    Accounts outside (action, log) ⟨answer, outside.pushAll (frame :: inner)⟩ where
  deep := by
    simp only [Report.depth, depth, pushAll, List.cons_append, List.length_cons, List.length_append]
    omega
  unchanged := ⟨frame :: inner, rfl⟩
  finds name := (tells name 0 (Nat.zero_le _)).symm
  answers name looksUp := by
    rw [answers name looksUp, tells name 0 (Nat.zero_le _)]
    rfl

theorem ComesTo.single (tells : Tells outside log (frame :: inner)) {action : Action α}
    {answer : Answer α}
    (answers : ∀ name, action.looksUp? = some name →
      answer = .value ((outside.pushAll (frame :: inner)).find? name)) :
    ComesTo outside (Action.run.done answer (outside.pushAll (frame :: inner)))
      (Action.course.single action log) (frame :: inner) :=
  ⟨.cons (tells.accounts answers) .nil, rfl, rfl, tells⟩

/-- A required lookup finds what the events tell, and the list goes on accordingly. -/
theorem ComesTo.require (tells : Tells outside log (frame :: inner)) (name : String) :
    ComesTo outside ((Action.require name).run (outside.pushAll (frame :: inner)))
      ((Action.require name).course outside log) (frame :: inner) where
  reports := by
    refine .cons (tells.accounts fun other looksUp => ?_) .nil
    obtain rfl := Option.some.inj looksUp
    rfl
  goesOn := congrArg Option.isSome (tells name 0 (Nat.zero_le _)).symm
  scope := rfl
  tells := tells

/-- A script inside a frame of its own leaves the frames that were open before, if it leaves one
more. -/
theorem ComesTo.within {opened last : Frame α} {script : List (Action α)} (required : Bool)
    (comes : ComesTo outside (runAll script (outside.pushAll (opened :: frame :: inner)))
      (courseAll outside script (.opened opened :: log)) (last :: frame :: inner)) :
    ComesTo outside ((Action.within opened script required).run (outside.pushAll (frame :: inner)))
      ((Action.within opened script required).course outside log) (frame :: inner) := by
  have closed := comes.tells.closed
  have after : (withFrame opened (runAll script) (outside.pushAll (frame :: inner))).2 =
      outside.pushAll (frame :: inner) := withFrame_restores opened _ _ ⟨last, comes.scope⟩
  have goesOn : (withFrame opened (runAll script) (outside.pushAll (frame :: inner))).1.2 =
      (courseAll outside script (.opened opened :: log)).goesOn := comes.goesOn
  rw [Action.run, Action.course]
  refine ⟨List.rel_append comes.reports (.cons ?_ .nil), ?_, after, closed⟩
  · rw [after]
    exact closed.accounts fun name looksUp => by cases looksUp
  · exact congrArg (· || !required) goesOn

end

/-! ## Runs -/

theorem runAll_cons (action : Action α) (rest : List (Action α)) (scope : Scope α) :
    runAll (action :: rest) scope =
      if (action.run scope).1.2 then
        (((action.run scope).1.1 ++ (runAll rest (action.run scope).2).1.1,
          (runAll rest (action.run scope).2).1.2), (runAll rest (action.run scope).2).2)
      else action.run scope := by
  rw [runAll]
  split
  · next reports after ran => rw [ran]; rfl
  · next reports after ran => rw [ran]; rfl

/-- One operation of a script that matches comes to its course. It leaves the frames below those of
the script, and the rest of the script matches the number of the others. If the list ends there,
only one of them is left. -/
theorem Matched.step {outside : Scope α} {log : List (Event α)} {mine base : List (Frame α)}
    {opened : Nat} {action : Action α} {rest : List (Action α)}
    (matched : Matched opened (action :: rest)) (size : mine.length = opened + 1)
    (tells : Tells outside log (mine ++ base))
    (nested : ∀ frame script required, action = .within frame script required → Matched 0 script →
      ∃ last, ComesTo outside (runAll script (outside.pushAll (frame :: mine ++ base)))
        (courseAll outside script (.opened frame :: log)) (last :: mine ++ base)) :
    ∃ openedAfter mineAfter, Matched openedAfter rest ∧ mineAfter.length = openedAfter + 1 ∧
      ComesTo outside (action.run (outside.pushAll (mine ++ base))) (action.course outside log)
        (mineAfter ++ base) ∧
      ((action.course outside log).goesOn = false → openedAfter = 0) := by
  obtain ⟨top, others, rfl⟩ := List.exists_cons_of_length_eq_add_one size
  cases matched with
  | @push _ frame _ later =>
    refine ⟨opened + 1, frame :: top :: others, later, by rw [List.length_cons, size], ?_, nofun⟩
    exact .single (tells.opened frame) nofun
  | @pop opened _ later =>
    have fewer := Nat.succ.inj size
    obtain ⟨second, more, rfl⟩ := List.exists_cons_of_length_eq_add_one fewer
    exact ⟨opened, second :: more, later, fewer, .single tells.closed nofun, nofun⟩
  | @declare _ name value _ later =>
    refine ⟨opened, top.insert name value :: others, later, size, ?_, nofun⟩
    exact .single (tells.bound name value) nofun
  | @get _ name _ later =>
    refine ⟨opened, top :: others, later, size, .single tells fun other looksUp => ?_, nofun⟩
    obtain rfl := Option.some.inj looksUp
    rfl
  | @require name _ later =>
    exact ⟨0, top :: others, later, size, .require tells name, fun _ => rfl⟩
  | @within _ frame script _ required inner early later =>
    obtain ⟨last, comes⟩ := nested frame script required rfl inner
    refine ⟨opened, top :: others, later, size, .within required comes, fun ended => early ?_⟩
    rw [Action.course, Bool.or_eq_false_iff] at ended
    simpa using ended.2

/-- A script that matches comes to its course, and leaves one frame more than those below its
own. -/
theorem Matched.comesTo {outside : Scope α} {log : List (Event α)} {mine base : List (Frame α)}
    {opened : Nat} {script : List (Action α)} (matched : Matched opened script)
    (size : mine.length = opened + 1) (tells : Tells outside log (mine ++ base)) :
    ∃ last, ComesTo outside (runAll script (outside.pushAll (mine ++ base)))
      (courseAll outside script log) (last :: base) := by
  cases script with
  | nil =>
    cases matched
    obtain ⟨last, rfl⟩ := List.length_eq_one_iff.mp size
    exact ⟨last, .nil, rfl, rfl, tells⟩
  | cons action rest =>
    -- A script inside of this one starts with a frame of its own, and has all frames of this one
    -- below.
    have nested : ∀ frame script required, action = .within frame script required →
        Matched 0 script →
        ∃ last, ComesTo outside (runAll script (outside.pushAll (frame :: mine ++ base)))
          (courseAll outside script (.opened frame :: log)) (last :: mine ++ base) := by
      rintro frame script required rfl inner
      have starts : Tells outside (.opened frame :: log) ([frame] ++ (mine ++ base)) :=
        tells.opened frame
      exact inner.comesTo List.length_singleton starts
    obtain ⟨openedAfter, mineAfter, later, left, first, early⟩ := matched.step size tells nested
    rw [runAll_cons, courseAll, first.goesOn, first.scope]
    split
    · obtain ⟨last, others⟩ := later.comesTo left first.tells
      exact ⟨last, List.rel_append first.reports others.reports, others.goesOn, others.scope,
        others.tells⟩
    · next ended =>
      obtain rfl := early (by simpa using ended)
      obtain ⟨last, rfl⟩ := List.length_eq_one_iff.mp left
      exact ⟨last, first⟩
termination_by sizeOf script

/-- Work inside a frame of its own, by a script that matches, leaves the scope as it was, whether or
not it ended early. It takes the steps of its course, from the opening of the frame on, and in the
report of each of them the frame is open, the frames outside are unchanged, and names mean what the
events up to it tell. -/
theorem frames_are_closed_on_every_path {script : List (Action α)} (matched : Matched 0 script)
    (frame : Frame α) (scope : Scope α) :
    (withFrame frame (runAll script) scope).2 = scope ∧
      (withFrame frame (runAll script) scope).1.2 =
        (courseAll scope script [.opened frame]).goesOn ∧
      List.Forall₂ (Accounts scope) (courseAll scope script [.opened frame]).steps
        (withFrame frame (runAll script) scope).1.1 := by
  have starts : Tells scope [.opened frame] ([frame] ++ []) := (Tells.nothing scope).opened frame
  obtain ⟨last, comes⟩ := matched.comesTo List.length_singleton starts
  exact ⟨withFrame_restores frame _ scope ⟨last, comes.scope⟩, comes.goesOn, comes.reports⟩

/-- A name is bound anew in a frame opened by hand and in one of its own, in which a lookup fails
that both scripts around it end with. -/
theorem frames_are_closed_after_failed_lookup :
    ∃ (script : List (Action Nat)) (frame : Frame Nat) (scope : Scope Nat),
      script = [.push .empty, .declare "x" 2, .get "x", .pop,
        .within .empty [.get "x", .declare "x" 3, .require "y", .get "x"] true, .get "x"] ∧
      frame = .ofList [("x", 1)] ∧ scope = ⟨[.ofList [("x", 0)]]⟩ ∧ Matched 0 script ∧
      (withFrame frame (runAll script) scope).1.1.map Report.answer =
        [.nothing, .value none, .value (some 2), .frame (some (.ofList [("x", 2)])),
          .value (some 1), .value none, .value none, .completed false] ∧
      (withFrame frame (runAll script) scope).1.1.map Report.depth = [3, 3, 3, 2, 3, 3, 3, 2] ∧
      (withFrame frame (runAll script) scope).2 = scope ∧
      (withFrame frame (runAll script) scope).1.2 =
        (courseAll scope script [.opened frame]).goesOn ∧
      List.Forall₂ (Accounts scope) (courseAll scope script [.opened frame]).steps
        (withFrame frame (runAll script) scope).1.1 := by
  have inner : Matched 0 [.get "x", .declare "x" 3, .require "y", Action.get "x"] :=
    .get (.declare (.require (.get .nil)))
  have matched : Matched 0 [.push .empty, .declare "x" 2, .get "x", .pop,
      .within .empty [.get "x", .declare "x" 3, .require "y", .get "x"] true, Action.get "x"] :=
    .push (.declare (.get (.pop (.within inner (fun _ => rfl) (.get .nil)))))
  exact ⟨_, _, _, rfl, rfl, rfl, matched, by decide, by decide,
    frames_are_closed_on_every_path matched _ _⟩

end Kaleido.Scope
