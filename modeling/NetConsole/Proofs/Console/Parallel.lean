import NetConsole.Proofs.Client.Composed
import NetConsole.Proofs.Console.Course

/-!
# Visits side by side

What a command does on a visit is put together from few steps: it asks the controller, keeps records
and prints. Two visits that go through these steps side by side, under two presentations, go through
every command side by side.
-/

set_option autoImplicit false

namespace NetConsole.Console

open Stepwise Operation

namespace Step

/-- Visits that go together stay together in the steps of a visit, where two presentations are
printed for. -/
structure KeepsTogether (together : Visit → Visit → Prop) (p q : Presentation) : Prop where
  ask {α : Type} {operation : Operation α} :
    operation.Composed → Parallel together (ask operation) (ask operation)
  keep {α : Type} [Record α] (resource : Resource) (id : α → String) (records : List α) :
    Parallel together (keep resource id records) (keep resource id records)
  print (text : Presentation → String) :
    Parallel together (print p (text p)) (print q (text q))

variable {together : Visit → Visit → Prop} {p q : Presentation}

theorem KeepsTogether.sheet {α β : Type} (keeps : KeepsTogether together p q)
    {operation : Operation α} (composed : operation.Composed) (sheet : Sheet β) (view : α → β) :
    Parallel together
      (Step.ask operation >>= fun value => Step.print p (sheet.text p.format (view value)))
      (Step.ask operation >>= fun value => Step.print q (sheet.text q.format (view value))) :=
  (keeps.ask composed).bind fun value => keeps.print fun p => sheet.text p.format (view value)

theorem KeepsTogether.list {α : Type} [Record α] (keeps : KeepsTogether together p q)
    {operation : Operation (List α)} (composed : operation.Composed) (resource : Resource)
    (id : α → String) (listing : Listing α) :
    Parallel together
      (Step.ask operation >>= fun records => Step.keep resource id records >>= fun _ =>
        Step.print p (listing.text p.format records))
      (Step.ask operation >>= fun records => Step.keep resource id records >>= fun _ =>
        Step.print q (listing.text q.format records)) :=
  (keeps.ask composed).bind fun records => (keeps.keep resource id records).bind fun _ =>
    keeps.print fun p => listing.text p.format records

theorem KeepsTogether.reply (keeps : KeepsTogether together p q)
    {operation : Operation CommandReply} (composed : operation.Composed) (action : String) :
    Parallel together (Step.ask operation >>= fun reply => printReply p action reply)
      (Step.ask operation >>= fun reply => printReply q action reply) := by
  refine (keeps.ask composed).bind fun reply => ?_
  have prints : ∀ p, ∃ text, printReply p action reply = Step.print p text := fun p => ⟨_, rfl⟩
  obtain ⟨text, same⟩ := Classical.skolem.mp prints
  rw [same p, same q]
  exact keeps.print text

theorem parallel_confirm {α : Type} {nextOne nextTwo : Unit → Step α} (yes : Bool)
    (action : String) (rest : Parallel together (nextOne ()) (nextTwo ())) :
    Parallel together (confirm yes action >>= nextOne) (confirm yes action >>= nextTwo) := by
  cases yes with
  | false => exact parallel_throw (Failure.unconfirmed action)
  | true => exact rest

end Step

open Step

variable {together : Visit → Visit → Prop} {p q : Presentation}

theorem DeviceCommand.parallel_visit (keeps : KeepsTogether together p q)
    (command : DeviceCommand) : Parallel together (command.visit p) (command.visit q) := by
  cases command with
  | list filter paging =>
      exact keeps.list (Client.composed_listDevicesShort filter paging.wanted?) .devices
        (fun d => d.id) DeviceSummary.listing
  | get id => exact keeps.sheet (Client.composed_lookup _ _ id) Device.sheet fun device => device
  | inspect mac =>
      exact keeps.sheet (Client.composed_getDeviceByMac mac) Device.sheet fun device => device
  | address mac =>
      exact keeps.sheet (Client.composed_deviceIp mac) DeviceAddress.sheet fun ip => ⟨mac, ip⟩

theorem AccessPointCommand.parallel_visit (keeps : KeepsTogether together p q) (yes : Bool)
    (command : AccessPointCommand) :
    Parallel together (command.visit p yes) (command.visit q yes) := by
  cases command with
  | locate mac off => exact keeps.reply (Client.composed_orderDevice _ mac) _
  | locating mac =>
      exact keeps.sheet (Client.composed_isLocating mac) LocateState.sheet
        fun locating => ⟨mac, locating⟩
  | restart mac =>
      exact parallel_confirm yes _ (keeps.reply (Client.composed_orderDevice _ mac) "restart")
  | disable mac =>
      exact parallel_confirm yes _ (keeps.reply (Client.composed_changeDevice mac _) "disable")
  | enable mac => exact keeps.reply (Client.composed_changeDevice mac _) "enable"
  | rename mac name => exact keeps.reply (Client.composed_renameAp mac name) "rename"

theorem StationCommand.parallel_visit (keeps : KeepsTogether together p q)
    (command : StationCommand) : Parallel together (command.visit p) (command.visit q) := by
  cases command <;> exact keeps.reply (Client.composed_orderStation _) _

/-- Visits that the steps keep together go through a command side by side. A request that the user
words himself is a step of its own. -/
theorem ControllerCommand.parallel_visit (keeps : KeepsTogether together p q) (yes : Bool)
    (command : ControllerCommand)
    (raw : ∀ worded, command = .raw worded → Parallel together worded.visit worded.visit) :
    Parallel together (command.visit p yes) (command.visit q yes) := by
  cases command with
  | alarms command =>
      cases command with
      | list paging =>
          have listed := @Client.composed_list Alarm _ Client.alarmsPath paging.wanted?
          exact keeps.list listed .alarms (fun a : Alarm => a.id) Alarm.listing
      | get id =>
          have found := @Client.composed_lookup Alarm _ "alarm" Client.alarmsPath id
          exact keeps.sheet found Alarm.sheet fun a => a
  | events command =>
      cases command with
      | list paging =>
          have listed := @Client.composed_list Event _ Client.eventsPath paging.wanted?
          exact keeps.list listed .events (fun e : Event => e.id) Event.listing
      | get id =>
          have found := @Client.composed_lookup Event _ "event" Client.eventsPath id
          exact keeps.sheet found Event.sheet fun e => e
  | users command =>
      cases command with
      | list paging =>
          have listed := @Client.composed_list User _ Client.usersPath paging.wanted?
          exact keeps.list listed .users (fun u : User => u.id) User.listing
      | get id =>
          have found := @Client.composed_lookup User _ "user" Client.usersPath id
          exact keeps.sheet found User.sheet fun u => u
  | sites command =>
      cases command with
      | list paging =>
          have listed := @Client.composed_list Site _ Client.sitesPath paging.wanted?
          exact keeps.list listed .sites (fun s : Site => s.id) Site.listing
      | get id =>
          have found := @Client.composed_lookup Site _ "site" Client.sitesPath id
          exact keeps.sheet found Site.sheet fun s => s
  | devices command => exact command.parallel_visit keeps
  | accessPoints command => exact command.parallel_visit keeps yes
  | stations command => exact command.parallel_visit keeps
  | raw command => exact raw command rfl

/-- Visits that a login leaves together, if it leaves them at all, are together once the controller
is left. -/
theorem parallel_visitController {first second : Connection} {command : ControllerCommand}
    {yes : Bool} {one two : Visit}
    (entry : EndTogether together (ask (Client.login first.username first.password))
      (ask (Client.login second.username second.password)) one two)
    (inside : Parallel together (command.visit p yes) (command.visit q yes))
    (leaving : Parallel together (ask Client.logout) (ask Client.logout)) :
    ∃ result afterOne afterTwo,
      (visitController first command p yes).run one = (result, afterOne) ∧
        (visitController second command q yes).run two = (result, afterTwo) ∧
        together afterOne afterTwo := by
  obtain ⟨result, afterOne, afterTwo, enteredOne, enteredTwo, entered⟩ := entry.exists_run
  have ranOne : (ask (Client.login first.username first.password)).run.run one = _ := enteredOne
  have ranTwo : (ask (Client.login second.username second.password)).run.run two = _ := enteredTwo
  unfold visitController
  rw [StateT.run_bind, StateT.run_bind, ranOne, ranTwo]
  cases result with
  | error failure => exact ⟨_, _, _, rfl, rfl, entered⟩
  | ok status =>
      obtain ⟨ended, insideOne, insideTwo, visitedOne, visitedTwo, visited⟩ :=
        (inside afterOne afterTwo entered).exists_run
      have endOne : (command.visit p yes).run.run afterOne = _ := visitedOne
      have endTwo : (command.visit q yes).run.run afterTwo = _ := visitedTwo
      change ∃ result leftOne leftTwo,
        StateT.run ((command.visit p yes).run >>= _) afterOne = (result, leftOne) ∧
          StateT.run ((command.visit q yes).run >>= _) afterTwo = (result, leftTwo) ∧
          together leftOne leftTwo
      rw [StateT.run_bind, StateT.run_bind, endOne, endTwo]
      have left := (leaving insideOne insideTwo visited).2
      cases ended with
      | ok done => exact ⟨_, _, _, rfl, rfl, left⟩
      | error failure =>
          cases failure with
          | overflow => exact ⟨_, _, _, rfl, rfl, visited⟩
          | _ => exact ⟨_, _, _, rfl, rfl, left⟩

end NetConsole.Console
