import NetConsole.Proofs.Client.Pages
import NetConsole.Proofs.Client.Sendable

/-!
# Updates of a device

A device is renamed, disabled or enabled in two steps: its record is looked up by address, and then
changed under the id that the record has. The second request goes out exactly if the first answer
brings a record to change and leaves a session token to change it under.
-/

set_option autoImplicit false

namespace NetConsole

open Url Stepwise Operation

/-- What a caller may change of a device. -/
inductive Update where
  | rename (name : String)
  /-- disables it, or enables it again -/
  | disable (disabled : Bool)
  deriving DecidableEq, Repr

namespace Update

def operation (mac : String) : Update → Operation CommandReply
  | rename name => Client.renameAp mac name
  | disable disabled => Client.disableAp mac disabled

/-- The argument of an update that is blank: the name first, and then the address. -/
def blank? (mac : String) : Update → Option String
  | rename name =>
      if Text.isBlankText name then some "name"
      else if Text.isBlankText mac then some "mac" else none
  | disable _ => if Text.isBlankText mac then some "mac" else none

/-- The one member that a change has. -/
def member : Update → String × Json
  | rename name => ("name", .string name)
  | disable disabled => ("disabled", .bool disabled)

def change : Update → DeviceChange
  | rename name => { name := some name }
  | disable disabled => { disabled := some disabled }

theorem members_change (update : Update) : update.change.members = [update.member] := by
  cases update <;> rfl

theorem run_changeDevice_blank {mac : String} (blank : Text.isBlankText mac = true)
    (change : DeviceChange) (client : Client) : (Client.changeDevice mac change).run client =
      (.error (.invalidArgument "mac" "cannot be empty"), client) := by
  simp only [Client.changeDevice, Client.deviceId, Client.getDeviceByMac, Client.requireMac, blank,
    if_true]
  rfl

theorem run_of_blank {update : Update} {mac argument : String}
    (blank : update.blank? mac = some argument) (client : Client) :
    (update.operation mac).run client =
      (.error (.invalidArgument argument "cannot be empty"), client) := by
  cases update with
  | rename name =>
      simp only [blank?] at blank
      rw [operation, Client.renameAp]
      split at blank
      case isTrue empty =>
        cases blank
        rw [if_pos empty]
        rfl
      case isFalse named =>
        split at blank
        case isTrue empty =>
          cases blank
          rw [if_neg named]
          exact run_changeDevice_blank empty _ client
        case isFalse => cases blank
  | disable disabled =>
      simp only [blank?] at blank
      split at blank
      case isTrue empty =>
        cases blank
        exact run_changeDevice_blank empty _ client
      case isFalse => cases blank

theorem of_not_blank {update : Update} {mac : String} (filled : update.blank? mac = none) :
    Text.isBlankText mac = false ∧
      update.operation mac = Client.changeDevice mac update.change := by
  cases update with
  | rename name =>
      simp only [blank?] at filled
      split at filled
      case isTrue => cases filled
      case isFalse named =>
        split at filled
        case isTrue => cases filled
        case isFalse given =>
          refine ⟨by simpa using given, ?_⟩
          rw [operation, Client.renameAp, if_neg named]
          rfl
  | disable disabled =>
      simp only [blank?] at filled
      split at filled
      case isTrue => cases filled
      case isFalse given => exact ⟨by simpa using given, rfl⟩

end Update

namespace Client

variable {client : Client} {mac : String}

/-! ## The lookup -/

/-- The answer to the lookup of a device is whole and of success, and a device is the first of its
records, which no verdict refuses. -/
structure Finds (client : Client) (mac : String) (answer : Answer) (device : Device) : Prop where
  hears : ∃ url, client.Hears (deviceRequest mac) url answer
  listed : ∃ envelope : Envelope Device, answer.Holds envelope ∧ envelope.Accepts ∧
    envelope.data.head? = some device

/-- What a lookup of the id of a device makes of an answer. -/
def identified (mac : String) (pair : Url × Answer) : Except ClientError String :=
  listing Device (deviceRequest mac) pair >>= fun devices =>
    firstOf "device" mac devices >>= fun device => .ok device.id

theorem run_deviceId (given : Text.isBlankText mac = false) (client : Client) :
    (deviceId mac).run client =
      (((exchange (deviceRequest mac)).run client).1 >>= identified mac,
        ((exchange (deviceRequest mac)).run client).2) := by
  have found : getDeviceByMac mac = first Device "device" (devicesPath ++ "/" ++ mac) mac := by
    rw [getDeviceByMac, requireMac, given]
    rfl
  have looked : (deviceId mac).run client =
      (((first Device "device" (devicesPath ++ "/" ++ mac) mac).run client).1 >>=
          fun device => .ok device.id,
        ((first Device "device" (devicesPath ++ "/" ++ mac) mac).run client).2) := by
    rw [deviceId, found]
    exact run_judging (fun _ _ => rfl) client
  rw [looked, run_first, run_list]
  simp only [bind_assoc]
  rfl

theorem identified_ok_iff {url : Url} {answer : Answer} {id : String} :
    identified mac (url, answer) = .ok id ↔
      ∃ (envelope : Envelope Device) (device : Device), answer.Holds envelope ∧ envelope.Accepts ∧
        envelope.data.head? = some device ∧ device.id = id := by
  unfold identified
  simp only [bind_eq_ok, listing_ok_iff]
  constructor
  · rintro ⟨records, ⟨envelope, holds, accepts, rfl⟩, device, first, same⟩
    refine ⟨envelope, device, holds, accepts, ?_, Except.ok.inj same⟩
    cases data : envelope.data <;> simp_all [firstOf]
  · rintro ⟨envelope, device, holds, accepts, first, rfl⟩
    refine ⟨envelope.data, ⟨envelope, holds, accepts, rfl⟩, device, ?_, rfl⟩
    cases data : envelope.data <;> simp_all [firstOf]

/-- The lookup gives the id of the first device that it finds. -/
theorem deviceId_ok_iff (given : Text.isBlankText mac = false) {id : String} :
    ((deviceId mac).run client).1 = .ok id ↔
      ∃ answer device, client.Finds mac answer device ∧ device.id = id := by
  rw [run_deviceId given, bind_eq_ok]
  constructor
  · rintro ⟨⟨url, answer⟩, exchanged, identified⟩
    obtain ⟨envelope, device, holds, accepts, first, same⟩ := identified_ok_iff.mp identified
    exact ⟨answer, device, ⟨⟨url, exchange_ok_iff.mp exchanged⟩, envelope, holds, accepts, first⟩, same⟩
  · rintro ⟨answer, device, ⟨⟨url, hears⟩, envelope, holds, accepts, first⟩, same⟩
    exact ⟨(url, answer), exchange_ok_iff.mpr hears,
      identified_ok_iff.mpr ⟨envelope, device, holds, accepts, first, same⟩⟩

/-! ## The change -/

/-- Where the lookup of a device could be sent, the change of it can be as well, if the answer left
a session token. -/
theorem exists_prepared_change (real : client.wire.IsReal) {url : Url} {answer : Answer}
    (hears : client.Hears (deviceRequest mac) url answer)
    (held : (client.tokens.absorb answer.cookies).hasSession = true) (id : String)
    (change : DeviceChange) :
    ∃ place put, prepare client.session (client.tokens.absorb answer.cookies)
        (changeRequest id change) = .ok (place, put) ∧ client.wire.reaches put.url = true := by
  have base : client.session.base (deviceRequest mac).path =
      client.session.base (changeRequest id change).path := by
    change client.session.base (devicesPath ++ "/" ++ mac) =
      client.session.base (deviceRecordsPath ++ "/" ++ id)
    have unrooted : devicesPath.toList.head? ≠ some '/' ∧ deviceRecordsPath.toList.head? ≠ some '/' := by
      decide
    rw [Session.base_below _ (begins_resource (by simp [resourcePaths])),
      Session.base_below _ begins_deviceRecords, Session.base, Session.base, if_neg unrooted.1,
      if_neg unrooted.2]
  have akin := Session.akin_resolve (begins_device mac) (begins_change id change) base
  rw [hears.resolved] at akin
  generalize found : client.session.resolve (changeRequest id change).path = other at akin
  cases akin with
  | @ok _ place same =>
      have spoken : answer.IsSpoken := hears.spoken real
      obtain ⟨put, ready⟩ := prepare_of_sendable found (fun _ => held)
        (hears.sendable.again same (hears.sendable.tokens.answered spoken))
      refine ⟨place, put, ready, ?_⟩
      rw [← hears.reached]
      apply real.byOrigin
      rw [url_of_prepare rfl ready]
      exact ((sameOrigin_stripUser place).trans same.origin.symm).trans (sameOrigin_stripUser url).symm

theorem run_changeDevice (given : Text.isBlankText mac = false) (change : DeviceChange)
    (client : Client) : (changeDevice mac change).run client =
      match ((deviceId mac).run client).1 with
      | .error cause => (.error cause, ((exchange (deviceRequest mac)).run client).2)
      | .ok id => (command .put (deviceRecordsPath ++ "/" ++ id) change).run
          ((exchange (deviceRequest mac)).run client).2 := by
  have left := congrArg Prod.snd (run_deviceId given client)
  dsimp only at left
  rw [changeDevice, run_bind, ← left]
  rcases (deviceId mac).run client with ⟨looked, between⟩
  cases looked <;> rfl

theorem after_command {α : Type} [Record α] (method : Method) (path : String) (body : α)
    (client : Client) : ((command method path body).run client).2 =
      ((exchange (commandRequest method path body)).run client).2 := by
  have same := congrArg Prod.snd (@run_execute (commandRequest method path body) client CommandReply _)
  exact same.trans (after_executeShape _ _ client)

end Client

/-! ## Both steps -/

namespace Update

open Client

/-- What an update may put on the wire: nothing, the lookup of the device, or that and the change of
the device that was found, with one member for its body. -/
inductive Traffic (update : Update) (mac : String) (client : Client) : List Sent → Prop where
  | none : Traffic update mac client []
  | lookup {get : Sent} :
      get.IsFor client.session client.tokens .get (devicesPath ++ "/" ++ mac) [] →
      Traffic update mac client [get]
  | change {get put : Sent} {answer : Answer} {device : Device} :
      get.IsFor client.session client.tokens .get (devicesPath ++ "/" ++ mac) [] →
      client.Finds mac answer device → (client.tokens.absorb answer.cookies).hasSession = true →
      put.IsFor client.session (client.tokens.absorb answer.cookies) .put
        (deviceRecordsPath ++ "/" ++ device.id)
        (Text.bytes (Json.object [update.member]).compact) →
      Traffic update mac client [get, put]

/-- How an update goes on a client. -/
structure Course (update : Update) (mac : String) (client : Client) (news : List Sent)
    (result : Except ClientError CommandReply) : Prop where
  traffic : update.Traffic mac client news
  /-- Without a session token nothing goes out; with one the lookup does, if it can. -/
  unheld : client.isLoggedIn = false → news = []
  looks : client.isLoggedIn = true → ∀ url,
    client.session.resolve (devicesPath ++ "/" ++ mac) = .ok url →
    Sendable client.session client.tokens url → client.wire.reaches (stripUser url) = true →
    news ≠ []
  /-- The change goes out if a device was found and a session token is left. -/
  changes : client.wire.IsReal → ∀ answer device, client.Finds mac answer device →
    (client.tokens.absorb answer.cookies).hasSession = true → news.length = 2
  /-- What fails the lookup fails the update. -/
  fails : ∀ cause, ((deviceId mac).run client).1 = .error cause → result = .error cause

variable {update : Update} {mac : String} {client : Client}

theorem exists_lookup (mac : String) (client : Client) : ∃ news,
    ((exchange (deviceRequest mac)).run client).2.wire.sent = client.wire.sent ++ news ∧
      (news = [] ∨ client.isLoggedIn = true ∧ ∃ get, news = [get] ∧
        get.IsFor client.session client.tokens .get (devicesPath ++ "/" ++ mac) []) := by
  rcases exchange_sent (deviceRequest mac) client with nothing | ⟨url, get, prepared, out⟩
  · exact ⟨[], by simpa using nothing, .inl rfl⟩
  · exact ⟨[get], out, .inr ⟨(prepare_eq_ok prepared).1 rfl, get, rfl,
      isFor_of_prepare rfl prepared⟩⟩

/-- An update whose lookup fails. -/
theorem course_of_error (given : Text.isBlankText mac = false) {cause : ClientError}
    (failed : ((deviceId mac).run client).1 = .error cause) :
    ∃ news, ((changeDevice mac update.change).run client).2.wire.sent = client.wire.sent ++ news ∧
      update.Course mac client news ((changeDevice mac update.change).run client).1 := by
  obtain ⟨news, out, isLookup⟩ := exists_lookup mac client
  rw [run_changeDevice given, failed]
  refine ⟨news, out, ?_⟩
  constructor
  case traffic =>
    rcases isLookup with rfl | ⟨-, get, rfl, isFor⟩
    · exact .none
    · exact .lookup isFor
  case unheld =>
    intro unheld
    rcases isLookup with rfl | ⟨held, -⟩
    · rfl
    · rw [held] at unheld
      cases unheld
  case looks =>
    rintro held url resolved sendable reached rfl
    obtain ⟨get, prepared⟩ := @prepare_of_sendable client.session client.tokens (deviceRequest mac)
      url resolved (fun _ => held) sendable
    rw [← url_of_prepare rfl prepared] at reached
    have there := exchange_reached prepared reached
    rw [out] at there
    simp at there
  case changes =>
    intro _ answer device finds _
    have found := (deviceId_ok_iff given).mpr ⟨answer, device, finds, rfl⟩
    rw [failed] at found
    cases found
  case fails =>
    intro other same
    rw [failed] at same
    rw [Except.error.inj same]

/-- What goes out after a lookup that was answered: the change of a device, if it is sent at all. -/
theorem exists_change {url : Url} {answer : Answer}
    (hears : client.Hears (deviceRequest mac) url answer) (id : String) : ∃ more,
      ((command .put (deviceRecordsPath ++ "/" ++ id) update.change).run
          ((exchange (deviceRequest mac)).run client).2).2.wire.sent =
        ((exchange (deviceRequest mac)).run client).2.wire.sent ++ more ∧
      (more = [] ∨ (client.tokens.absorb answer.cookies).hasSession = true ∧ ∃ put, more = [put] ∧
        put.IsFor client.session (client.tokens.absorb answer.cookies) .put
          (deviceRecordsPath ++ "/" ++ id) (Text.bytes (Json.object [update.member]).compact)) ∧
      (client.wire.IsReal → (client.tokens.absorb answer.cookies).hasSession = true →
        more.length = 1) := by
  have session := session_exchange (deviceRequest mac) client
  have reaches := reaches_exchange (deviceRequest mac) client
  have tokens := hears.tokens
  rw [after_command]
  generalize ((exchange (deviceRequest mac)).run client).2 = between at session reaches tokens ⊢
  have body : (changeRequest id update.change).body.getD [] =
      Text.bytes (Json.object [update.member]).compact := by
    rw [← update.members_change]
    rfl
  have goes : client.wire.IsReal → (client.tokens.absorb answer.cookies).hasSession = true →
      ∃ put, ((exchange (changeRequest id update.change)).run between).2.wire.sent =
        between.wire.sent ++ [put] := by
    intro real held
    obtain ⟨place, put, prepared, reached⟩ :=
      exists_prepared_change real hears held id update.change
    rw [← session, ← tokens] at prepared
    rw [← reaches] at reached
    exact ⟨put, exchange_reached prepared reached⟩
  rcases exchange_sent (changeRequest id update.change) between with nothing |
    ⟨place, put, prepared, out⟩
  · refine ⟨[], nothing.trans (List.append_nil _).symm, .inl rfl, fun real held => ?_⟩
    obtain ⟨put, out⟩ := goes real held
    rw [nothing] at out
    simp at out
  · rw [session, tokens] at prepared
    have isFor := isFor_of_prepare rfl prepared
    rw [body] at isFor
    exact ⟨[put], out, .inr ⟨(prepare_eq_ok prepared).1 rfl, put, rfl, isFor⟩, fun _ _ => rfl⟩

/-- An update that found a device. -/
theorem course_of_found (given : Text.isBlankText mac = false) {answer : Answer} {device : Device}
    (finds : client.Finds mac answer device) :
    ∃ news, ((changeDevice mac update.change).run client).2.wire.sent = client.wire.sent ++ news ∧
      update.Course mac client news ((changeDevice mac update.change).run client).1 := by
  have found := (deviceId_ok_iff given).mpr ⟨answer, device, finds, rfl⟩
  obtain ⟨url, hears⟩ := finds.hears
  obtain ⟨get, prepared, answered⟩ := hears_iff.mp hears
  have first := exchange_reached prepared (Wire.transmit_answer_iff.mp answered).1
  have isGet := isFor_of_prepare rfl prepared
  obtain ⟨more, second, isChange, goes⟩ := @exists_change update _ _ _ _ hears device.id
  rw [run_changeDevice given, found]
  refine ⟨get :: more, ?_, ?_⟩
  · rw [second, first, List.append_assoc]
    rfl
  · constructor
    case traffic =>
      rcases isChange with rfl | ⟨held, put, rfl, isPut⟩
      · exact .lookup isGet
      · exact .change isGet finds held isPut
    case unheld =>
      intro unheld
      have held := hears.held rfl
      rw [unheld] at held
      cases held
    case looks =>
      rintro - place - - - ⟨⟩
    case changes =>
      intro real other _ findsOther held
      obtain ⟨place, again⟩ := findsOther.hears
      obtain rfl : answer = other := hears.unique again
      rw [List.length_cons, goes real held]
    case fails =>
      intro cause failed
      rw [found] at failed
      cases failed

/-- An update goes its course if no argument is blank. -/
theorem exists_course (filled : update.blank? mac = none) (client : Client) : ∃ news,
    ((update.operation mac).run client).2.wire.sent = client.wire.sent ++ news ∧
      update.Course mac client news ((update.operation mac).run client).1 := by
  obtain ⟨given, same⟩ := of_not_blank filled
  rw [same]
  cases looked : ((deviceId mac).run client).1 with
  | error cause => exact course_of_error given looked
  | ok id =>
      obtain ⟨answer, device, finds, -⟩ := (deviceId_ok_iff given).mp looked
      exact course_of_found given finds

/-- An update with a blank argument does nothing at all. Any other looks the device up and changes
it, in two requests at most. -/
theorem update_in_two_steps (update : Update) (mac : String) (client : Client) :
    (∀ argument, update.blank? mac = some argument → (update.operation mac).run client =
      (.error (.invalidArgument argument "cannot be empty"), client)) ∧
    (update.blank? mac = none → ∃ news,
      ((update.operation mac).run client).2.wire.sent = client.wire.sent ++ news ∧
      update.Course mac client news ((update.operation mac).run client).1) :=
  ⟨fun _ blank => run_of_blank blank client, fun filled => exists_course filled client⟩

/-- A device, in an answer that rotates the session token. -/
def foundDevice : Answer :=
  ⟨200, [("set-cookie", "unifises=def789; Path=/")],
    Text.bytes "\x7b\"data\":[\x7b\"_id\":\"77\",\"mac\":\"aa:bb\"\x7d]\x7d", true, []⟩

theorem isReal_foundDevice : (holder [.answer foundDevice, .dropped]).wire.IsReal := by
  refine ⟨fun _ _ _ => rfl, fun answer member => ?_⟩
  obtain rfl : answer = foundDevice := by simpa [holder] using member
  unfold Answer.IsSpoken
  decide

theorem update_in_two_steps_sample :
    let client := holder [.answer foundDevice, .dropped]
    (∃ get put, (((Update.rename "Attic").operation "aa:bb").run client).2.wire.sent = [get, put] ∧
      put.IsFor client.session ⟨some "def789", none⟩ .put "rest/device/77"
        (Text.bytes "\x7b\"name\":\"Attic\"\x7d")) ∧
    ((Update.disable true).operation " ").run client =
      (.error (.invalidArgument "mac" "cannot be empty"), client) := by
  intro client
  have heard : ((exchange (deviceRequest "aa:bb")).run client).1.toOption.map (·.2) =
      some foundDevice := by decide +kernel
  have given : Text.isBlankText "aa:bb" = false := by decide
  have found : ((deviceId "aa:bb").run client).1 = .ok "77" := by decide +kernel
  obtain ⟨answer, device, finds, id⟩ := (deviceId_ok_iff given).mp found
  obtain ⟨url, hears⟩ := finds.hears
  rw [exchange_ok_iff.mpr hears] at heard
  obtain rfl : answer = foundDevice := Option.some.inj heard
  obtain ⟨-, filled⟩ := update_in_two_steps (.rename "Attic") "aa:bb" client
  obtain ⟨blank, -⟩ := update_in_two_steps (.disable true) " " client
  obtain ⟨news, out, course⟩ := filled (by decide)
  have two := course.changes isReal_foundDevice foundDevice device finds (by decide)
  refine ⟨?_, blank "mac" (by decide)⟩
  rw [out]
  cases course.traffic with
  | none => cases two
  | lookup => cases two
  | @change get put other same isGet again held isPut =>
      obtain ⟨place, hearsAgain⟩ := again.hears
      obtain rfl : foundDevice = other := hears.unique hearsAgain
      have named : same.id = "77" :=
        Except.ok.inj (((deviceId_ok_iff given).mpr ⟨_, same, again, rfl⟩).symm.trans found)
      have tokens : client.tokens.absorb foundDevice.cookies = ⟨some "def789", none⟩ := by
        decide +kernel
      have body : (Json.object [(Update.rename "Attic").member]).compact =
        "\x7b\"name\":\"Attic\"\x7d" := by decide +kernel
      have path : deviceRecordsPath ++ "/" ++ "77" = "rest/device/77" := by decide
      rw [named, tokens, body, path] at isPut
      exact ⟨get, put, rfl, isPut⟩

end Update

end NetConsole
