import NetConsole.Arguments.Reading
import NetConsole.Proofs.Json.Numbers
import NetConsole.Proofs.Stepwise
import Mathlib.Data.List.Basic

/-!
# Integers on command lines

Where a grammar asks for no integers but those of machine words, every integer that a command line
or the environment gives is one, and so is every integer in what the command line means.
-/

set_option autoImplicit false

namespace NetConsole.Arguments

open Stepwise
open Json (IsWord)

variable {α : Type}

def Value.IsWord : Value → Prop
  | .integer i => Json.IsWord i
  | _ => True

/-- A kind of values whose integers are words. -/
def Kind.Fits : Kind → Prop
  | .integer low high => Json.IsWord low ∧ Json.IsWord high
  | _ => True

def Effect.Fits : Effect → Prop
  | .value kind => kind.Fits
  | _ => True

instance : (kind : Kind) → Decidable kind.Fits
  | .integer low high => inferInstanceAs (Decidable (Json.IsWord low ∧ Json.IsWord high))
  | .text | .path | .word | .choice _ | .anyCaseChoice _ => inferInstanceAs (Decidable True)

instance : (effect : Effect) → Decidable effect.Fits
  | .value kind => inferInstanceAs (Decidable kind.Fits)
  | .mark | .tally | .help | .version => inferInstanceAs (Decidable True)

/-- All integers among the values of a command line are words. -/
def Matches.Fits (found : Matches) : Prop := ∀ given ∈ found.given, given.value.IsWord

/-- A command whose parameters and places fit, and whose leaves mean nothing but what holds as long
as the values of the line fit. -/
inductive Command.Fits (holds : α → Prop) : Command α → Prop where
  | group {name aliases commands} : (∀ command ∈ commands, Fits holds command) →
      Fits holds (.group name aliases commands)
  | leaf {name aliases parameters places meaning} :
      (∀ parameter ∈ parameters, parameter.effect.Fits) → (∀ place ∈ places, place.kind.Fits) →
      (∀ found : Matches, found.Fits → holds (meaning found)) →
      Fits holds (.leaf name aliases parameters places meaning)

theorem Command.Fits.ofAll {holds : α → Prop} {name : String} {aliases : List String}
    {commands : List (Command α)} (all : commands.Forall (Fits holds)) :
    Fits holds (.group name aliases commands) :=
  .group (List.forall_iff_forall_mem.mp all)

/-! ## Values -/

theorem oneOf_isWord {names : List String} {name : String} {value : Value}
    (read : oneOf names name = .ok value) : value.IsWord := by
  unfold oneOf at read
  split at read <;> cases read
  trivial

theorem bounded_isWord {low high : Int} (least : Json.IsWord low) (most : Json.IsWord high)
    {i : Option Int} {value : Value} (read : bounded low high i = .ok value) : value.IsWord := by
  cases i with
  | none => cases read
  | some i =>
      simp only [bounded] at read
      split at read
      · next within =>
          cases read
          exact ⟨Int.le_trans least.1 within.1, Int.lt_of_le_of_lt within.2 most.2⟩
      · cases read

theorem Kind.Fits.read {kind : Kind} (fits : kind.Fits) {s : String} {value : Value}
    (read : kind.read s = .ok value) : value.IsWord := by
  cases kind with
  | text => cases read; trivial
  | path =>
      simp only [Kind.read] at read
      split at read <;> cases read
      trivial
  | integer low high => exact bounded_isWord fits.1 fits.2 read
  | word => exact bounded_isWord (by decide) (by decide) read
  | choice names => exact oneOf_isWord read
  | anyCaseChoice names => exact oneOf_isWord read

theorem Matches.Fits.integer? {found : Matches} (fits : found.Fits) {name : String} {i : Int}
    (there : found.integer? name = some i) : Json.IsWord i := by
  unfold Matches.integer? Matches.find? at there
  cases given : found.given.find? (·.name == name) with
  | none => simp [given] at there
  | some entry =>
      have isWord := fits entry (List.mem_of_find?_eq_some given)
      cases value : entry.value with
      | integer j =>
          rw [value] at isWord
          simp only [given, value, Option.map_some, Option.some.injEq] at there
          exact there ▸ isWord
      | given | text => simp [given, value] at there

/-! ## Levels -/

theorem Command.Fits.place {holds : α → Prop} {command : Command α} (fits : command.Fits holds)
    {place : Place} (member : place ∈ command.places) : place.kind.Fits := by
  cases fits with
  | group => cases member
  | leaf _ places _ => exact places place member

theorem Command.Fits.parameter {holds : α → Prop} {command : Command α}
    (fits : command.Fits holds) {parameter : Parameter} (member : parameter ∈ command.parameters) :
    parameter.effect.Fits := by
  cases fits with
  | group => cases member
  | leaf parameters _ _ => exact parameters parameter member

theorem Command.Fits.find? {holds : α → Prop} {command next : Command α}
    (fits : command.Fits holds) {name : String} (found : command.find? name = some next) :
    next.Fits holds := by
  cases fits with
  | group commands => exact commands next (List.mem_of_find?_eq_some found)
  | leaf => cases found

/-- A level at which everything fits. -/
structure Level.Fits (holds : α → Prop) (level : Level α) : Prop where
  command : level.command.Fits holds
  parameters : ∀ parameter ∈ level.parameters, parameter.effect.Fits
  pending : ∀ pending, level.pending = some pending → pending.kind.Fits
  given : ∀ given ∈ level.given, given.value.IsWord

namespace Level.Fits

variable {holds : α → Prop} {level after : Level α}

theorem lead (fits : level.Fits holds) {argument : String} {command : Command α}
    (leads : level.lead argument = .command command) : command.Fits holds := by
  unfold Level.lead at leads
  split at leads
  · cases leads
  · split at leads
    · next next found =>
        cases leads
        exact fits.command.find? found
    · split at leads <;> cases leads

theorem put (fits : level.Fits holds) (name : String) (source : Source) {value : Value}
    (isWord : value.IsWord) : (level.put name source value).Fits holds where
  command := fits.command
  parameters := fits.parameters
  pending := fits.pending
  given := by
    intro given member
    rcases List.mem_append.mp member with earlier | new
    · exact fits.given given earlier
    · rw [List.mem_singleton.mp new]
      exact isWord

theorem give (fits : level.Fits holds) {name : String} {source : Source}
    {value : Except Stop Value} (isWord : ∀ read, value = .ok read → read.IsWord)
    (gives : level.give name source value = .ok after) : after.Fits holds := by
  unfold Level.give at gives
  split at gives
  · cases gives
  · cases value with
    | error stop => cases gives
    | ok read =>
        cases gives
        exact fits.put name source (isWord read rfl)

theorem wait (fits : level.Fits holds) {pending : Option Pending}
    (waits : ∀ waiting, pending = some waiting → waiting.kind.Fits) (filled : Nat) :
    Fits holds { level with pending, filled } where
  command := fits.command
  parameters := fits.parameters
  pending := waits
  given := fits.given

theorem settle (fits : level.Fits holds) (settles : level.settle = .ok after) :
    after.Fits holds := by
  unfold Level.settle at settles
  split at settles
  · cases settles; exact fits
  · cases settles
  · next name kind s waiting =>
      have idle : Fits holds { level with pending := none } :=
        fits.wait (by simp) level.filled
      exact idle.give (fun _ read => (fits.pending _ waiting).read read) settles

theorem tally (fits : level.Fits holds) (name : String) : (level.tally name).Fits holds := by
  have others : Fits holds { level with given := level.given.filter (·.name != name) } :=
    ⟨fits.command, fits.parameters, fits.pending,
      fun given member => fits.given given ((List.mem_filter.mp member).1)⟩
  refine others.put name .line ?_
  have least : -(Decimal.half64 : Int) ≤ (Matches.mk level.given).integer name := by
    unfold Matches.integer
    cases there : (Matches.mk level.given).integer? name with
    | none => decide
    | some i =>
        have given : (Matches.mk level.given).Fits := fits.given
        exact (given.integer? there).1
  constructor
  · simp only [maxTally]
    omega
  · have small : min ((Matches.mk level.given).integer name + 1) maxTally ≤ 255 := Int.min_le_right _ _
    exact Int.lt_of_le_of_lt small (by decide)

theorem take (fits : level.Fits holds) {parameter : Parameter} (kindFits : parameter.effect.Fits)
    {value : Option (List Char)} (takes : level.take parameter value = .ok after) :
    after.Fits holds := by
  unfold Level.take at takes
  split at takes
  · next kind cs effect =>
      rw [effect] at kindFits
      obtain ⟨settled, settles, gives⟩ := bind_eq_ok.mp takes
      exact (fits.settle settles).give (fun _ read => kindFits.read read) gives
  · next kind effect =>
      rw [effect] at kindFits
      obtain ⟨settled, settles, waits⟩ := bind_eq_ok.mp takes
      cases waits
      exact (fits.settle settles).wait (by rintro _ ⟨⟩; exact kindFits) settled.filled
  · cases takes
  · obtain ⟨settled, settles, gives⟩ := bind_eq_ok.mp takes
    exact (fits.settle settles).give (by rintro _ ⟨⟩; trivial) gives
  · obtain ⟨settled, settles, tallies⟩ := bind_eq_ok.mp takes
    cases tallies
    exact (fits.settle settles).tally parameter.name
  · obtain ⟨settled, -, stops⟩ := bind_eq_ok.mp takes
    cases stops
  · obtain ⟨settled, -, stops⟩ := bind_eq_ok.mp takes
    cases stops

theorem fillPlace (fits : level.Fits holds) {argument : String}
    (fills : level.fillPlace argument = .ok after) : after.Fits holds := by
  unfold Level.fillPlace at fills
  split at fills
  · cases fills
  · next place next =>
      obtain ⟨settled, settles, waits⟩ := bind_eq_ok.mp fills
      cases waits
      have kindFits : place.kind.Fits := fits.command.place (List.mem_of_getElem? next)
      exact (fits.settle settles).wait (by rintro _ ⟨⟩; exact kindFits) _

theorem readPlain (fits : level.Fits holds) {argument : String}
    (reads : level.readPlain argument = .ok after) : after.Fits holds := by
  unfold Level.readPlain at reads
  split at reads
  · next name kind waiting =>
      cases reads
      have kindFits : kind.Fits := fits.pending _ waiting
      exact fits.wait (by rintro _ ⟨⟩; exact kindFits) level.filled
  · exact fits.fillPlace reads

theorem readLong (fits : level.Fits holds) {cs : List Char}
    (reads : level.readLong cs = .ok after) : after.Fits holds := by
  simp only [Level.readLong] at reads
  split at reads
  · cases reads
  · next parameter found =>
      exact fits.take (fits.parameters parameter (List.mem_of_find?_eq_some found)) reads

theorem readLetters (fits : level.Fits holds) {cs : List Char}
    (reads : level.readLetters cs = .ok after) : after.Fits holds := by
  induction cs generalizing level with
  | nil =>
      cases reads
      exact fits
  | cons c rest ih =>
      unfold Level.readLetters at reads
      split at reads
      · cases reads
      · next parameter found =>
          have kindFits := fits.parameters parameter (List.mem_of_find?_eq_some found)
          split at reads
          · exact fits.take kindFits reads
          · exact fits.take kindFits reads
          · exact fits.take kindFits reads
          · obtain ⟨between, takes, reads⟩ := bind_eq_ok.mp reads
            exact ih (fits.take kindFits takes) reads

theorem read (fits : level.Fits holds) {argument : String}
    (reads : level.read argument = .ok after) : after.Fits holds := by
  unfold Level.read at reads
  split at reads
  · cases reads
    exact ⟨fits.command, fits.parameters, fits.pending, fits.given⟩
  · exact fits.readLong reads
  · dsimp only at reads
    split at reads
    · exact fits.readPlain reads
    · exact fits.readLetters reads
  · exact fits.readPlain reads

theorem consult (fits : level.Fits holds) {environment : List (String × String)}
    {parameter : Parameter} (kindFits : parameter.effect.Fits)
    (consults : level.consult environment parameter = .ok after) : after.Fits holds := by
  unfold Level.consult at consults
  dsimp only at consults
  split at consults
  · next kind name s effect found =>
      rw [effect] at kindFits
      split at consults
      · cases consults
        exact fits
      · exact fits.give (fun _ read => kindFits.read read) consults
  · cases consults
    exact fits

theorem consultAll (fits : level.Fits holds) {environment : List (String × String)}
    {parameters : List Parameter} (kindsFit : ∀ parameter ∈ parameters, parameter.effect.Fits)
    (consults : parameters.foldlM (Level.consult environment) level = .ok after) :
    after.Fits holds := by
  induction parameters generalizing level with
  | nil =>
      cases consults
      exact fits
  | cons parameter rest ih =>
      rw [List.foldlM_cons] at consults
      obtain ⟨between, now, later⟩ := bind_eq_ok.mp consults
      exact ih (fits.consult (kindsFit parameter List.mem_cons_self) now)
        (fun other member => kindsFit other (List.mem_cons_of_mem parameter member)) later

theorem complete (fits : level.Fits holds) {environment : Environment}
    (completes : level.complete environment = .ok after) : after.Fits holds := by
  obtain ⟨settled, settles, consults⟩ := bind_eq_ok.mp completes
  have ready := fits.settle settles
  exact ready.consultAll ready.parameters consults

end Level.Fits

/-! ## Command lines -/

/-- A program all of whose parameters and commands fit. -/
structure Program.Fits (holds : α → Prop) (program : Program α) : Prop where
  shared : ∀ parameter ∈ program.shared, parameter.effect.Fits
  command : program.command.Fits holds

section

variable {holds : α → Prop} {program : Program α}

theorem Program.Fits.start (fits : program.Fits holds) (title : String) {command : Command α}
    (commandFits : command.Fits holds) : (Level.start program title command).Fits holds where
  command := commandFits
  parameters := by
    intro parameter member
    simp only [Level.start, List.mem_append, or_assoc] at member
    rcases member with own | common | question
    · exact commandFits.parameter own
    · exact fits.shared parameter common
    · simp only [questions, List.mem_cons, List.not_mem_nil, or_false] at question
      rcases question with rfl | rfl <;> trivial
  pending := fun _ same => nomatch same
  given := fun _ member => absurd member List.not_mem_nil

theorem readLevels_fits (fits : program.Fits holds) {arguments : List String} {level : Level α}
    {outer : List (Level α)} (levelFits : level.Fits holds)
    (outerFits : ∀ other ∈ outer, other.Fits holds) {innermost : Level α} {rest : List (Level α)}
    (reads : readLevels program level outer arguments = .ok (innermost, rest)) :
    innermost.Fits holds ∧ ∀ other ∈ rest, other.Fits holds := by
  induction arguments generalizing level outer with
  | nil =>
      cases reads
      exact ⟨levelFits, outerFits⟩
  | cons argument more ih =>
      unfold readLevels at reads
      split at reads
      · cases reads
      · next command lead =>
          have commandFits : command.Fits holds := levelFits.lead lead
          refine ih (fits.start _ commandFits) (fun other member => ?_) reads
          rcases List.mem_cons.mp member with rfl | further
          · exact levelFits
          · exact outerFits other further
      · split at reads
        · obtain ⟨between, now, later⟩ := bind_eq_ok.mp reads
          exact ih (levelFits.fillPlace now) outerFits later
        · obtain ⟨between, now, later⟩ := bind_eq_ok.mp reads
          exact ih (levelFits.read now) outerFits later

theorem completeAll_fits {environment : Environment} {levels completed : List (Level α)}
    (fit : ∀ level ∈ levels, level.Fits holds)
    (completes : levels.mapM (Level.complete environment) = .ok completed) :
    ∀ level ∈ completed, level.Fits holds := by
  induction levels generalizing completed with
  | nil =>
      cases completes
      exact fun _ member => absurd member List.not_mem_nil
  | cons level rest ih =>
      rw [List.mapM_cons] at completes
      obtain ⟨first, now, completes⟩ := bind_eq_ok.mp completes
      obtain ⟨others, later, completes⟩ := bind_eq_ok.mp completes
      cases completes
      intro other member
      rcases List.mem_cons.mp member with rfl | further
      · exact (fit level List.mem_cons_self).complete now
      · exact ih (fun other member => fit other (List.mem_cons_of_mem level member)) later other
          further

theorem gather_fits {levels : List (Level α)} (fit : ∀ level ∈ levels, level.Fits holds) :
    (gather levels).Fits := by
  intro given member
  have among : given ∈ levels.flatMap (·.given) := by
    rcases List.mem_append.mp member with line | environment
    · exact (List.mem_filter.mp line).1
    · exact (List.mem_filter.mp environment).1
  obtain ⟨level, there, own⟩ := List.mem_flatMap.mp among
  exact (fit level there).given given own

/-- What a command line means holds what the leaves of the program hold of values that fit. -/
theorem read_holds (fits : program.Fits holds) {environment : Environment}
    {arguments : List String} {found : Matches} {meaning : α}
    (reads : read program environment arguments = .ok (found, meaning)) :
    found.Fits ∧ holds meaning := by
  obtain ⟨⟨innermost, outer⟩, levels, reads⟩ := bind_eq_ok.mp reads
  obtain ⟨innerFits, outerFits⟩ := readLevels_fits fits (fits.start _ fits.command)
    (fun _ member => absurd member List.not_mem_nil) levels
  obtain ⟨inner, completes, reads⟩ := bind_eq_ok.mp reads
  obtain ⟨_, -, reads⟩ := bind_eq_ok.mp reads
  obtain ⟨others, completed, reads⟩ := bind_eq_ok.mp reads
  have ready := innerFits.complete completes
  have othersFit := completeAll_fits outerFits completed
  have gathered : (gather (inner :: others)).Fits := by
    apply gather_fits
    intro level member
    rcases List.mem_cons.mp member with rfl | further
    · exact ready
    · exact othersFit level further
  split at reads
  · next command =>
      cases reads
      have commandFits := ready.command
      rw [command] at commandFits
      cases commandFits with
      | leaf _ _ means => exact ⟨gathered, means _ gathered⟩
  · cases reads

end

end NetConsole.Arguments
