import NetConsole.Proofs.Client.Update

/-!
# Which device an update changes

The device that an update changes is the first that the lookup of an address brings, whatever
address that device has. So no other device is changed exactly if lookups are answered by devices
with the address that was asked for. An address that leads elsewhere is looked up elsewhere: where
all devices are listed, the first of them is changed.
-/

set_option autoImplicit false

namespace NetConsole

open Client

/-- Two addresses are the same but for the case of letters. -/
def SameAddress (one other : String) : Prop :=
  one.toList.map Char.toLower = other.toList.map Char.toLower

instance (one other : String) : Decidable (SameAddress one other) :=
  inferInstanceAs (Decidable (_ = _))

namespace Client

variable {client : Client} {mac : String}

theorem Finds.unique {answer other : Answer} {device another : Device}
    (finds : client.Finds mac answer device) (again : client.Finds mac other another) :
    answer = other ∧ device = another := by
  obtain ⟨⟨url, hears⟩, envelope, holds, -, first⟩ := finds
  obtain ⟨⟨place, hearsAgain⟩, second, holdsAgain, -, firstAgain⟩ := again
  obtain rfl : answer = other := hears.unique hearsAgain
  obtain rfl : envelope = second := holds.unique holdsAgain
  rw [first] at firstAgain
  exact ⟨rfl, Option.some.inj firstAgain⟩

theorem getDeviceByMac_of_finds (given : Text.isBlankText mac = false) {answer : Answer}
    {device : Device} (finds : client.Finds mac answer device) :
    ((getDeviceByMac mac).run client).1 = .ok device := by
  obtain ⟨⟨url, hears⟩, envelope, holds, accepts, first⟩ := finds
  have same : getDeviceByMac mac = Client.first Device "device" (devicesPath ++ "/" ++ mac) mac := by
    rw [getDeviceByMac, requireMac, given]
    rfl
  have listed : ((list Device (devicesPath ++ "/" ++ mac) none).run client).1 = .ok envelope.data :=
    list_ok_iff.mpr ⟨url, answer, hears, listing_ok_iff.mpr ⟨envelope, holds, accepts, rfl⟩⟩
  obtain ⟨rest, data⟩ := List.head?_eq_some_iff.mp first
  rw [same, run_first, listed, data]
  rfl

end Client

namespace Update

/-- A change that goes out is of a device that was found, under its id. -/
structure Changes (update : Update) (mac : String) (client : Client) (put : Sent)
    (answer : Answer) (device : Device) : Prop where
  filled : update.blank? mac = none
  finds : client.Finds mac answer device
  held : (client.tokens.absorb answer.cookies).hasSession = true
  isFor : put.IsFor client.session (client.tokens.absorb answer.cookies) .put
    (deviceRecordsPath ++ "/" ++ device.id) (Text.bytes (Json.object [update.member]).compact)

/-- The requests that an update puts on the wire of a client. -/
def news (update : Update) (mac : String) (client : Client) : List Sent :=
  ((update.operation mac).run client).2.wire.sent.drop client.wire.sent.length

/-- Whatever an update changes is a device with the address that it was given. -/
def ChangesOnlyNamed (update : Update) (mac : String) (client : Client) : Prop :=
  ∀ put ∈ update.news mac client, put.method = .put →
    ∃ answer device, update.Changes mac client put answer device ∧ SameAddress device.mac mac

variable {update : Update} {mac : String} {client : Client}

theorem news_of_blank {argument : String} (blank : update.blank? mac = some argument) :
    update.news mac client = [] := by
  rw [news, run_of_blank blank, List.drop_length]

theorem news_of_filled (filled : update.blank? mac = none) :
    update.Course mac client (update.news mac client) ((update.operation mac).run client).1 := by
  obtain ⟨more, out, course⟩ := exists_course filled client
  rw [news, out, List.drop_left]
  exact course

/-- Every change goes out under the id of the device that was found. -/
theorem exists_changes {put : Sent} (out : put ∈ update.news mac client)
    (changes : put.method = .put) :
    ∃ answer device, update.Changes mac client put answer device := by
  cases blank : update.blank? mac with
  | some argument =>
      rw [news_of_blank blank] at out
      cases out
  | none =>
      have course := @news_of_filled _ _ client blank
      generalize update.news mac client = sent at out course
      cases course.traffic with
      | none => cases out
      | lookup isGet =>
          obtain rfl := List.mem_singleton.mp out
          rw [isGet.method] at changes
          cases changes
      | @change get last answer device isGet finds held isPut =>
          rcases List.mem_cons.mp out with rfl | second
          · rw [isGet.method] at changes
            cases changes
          · obtain rfl := List.mem_singleton.mp second
            exact ⟨answer, device, blank, finds, held, isPut⟩

theorem exists_put (filled : update.blank? mac = none) (real : client.wire.IsReal)
    {answer : Answer} {device : Device} (finds : client.Finds mac answer device)
    (held : (client.tokens.absorb answer.cookies).hasSession = true) :
    ∃ put ∈ update.news mac client, put.method = .put := by
  have course := @news_of_filled _ _ client filled
  have two := course.changes real answer device finds held
  generalize update.news mac client = sent at course two ⊢
  cases course.traffic with
  | none => cases two
  | lookup isGet => cases two
  | @change get put other same isGet again held isPut =>
      exact ⟨put, by simp, isPut.method⟩

theorem changesOnlyNamed_iff (real : client.wire.IsReal) :
    update.ChangesOnlyNamed mac client ↔ (update.blank? mac = none → ∀ answer device,
      client.Finds mac answer device → (client.tokens.absorb answer.cookies).hasSession = true →
        SameAddress device.mac mac) := by
  constructor
  · intro onlyNamed filled answer device finds held
    obtain ⟨put, out, isPut⟩ := exists_put filled real finds held
    obtain ⟨other, another, changes, same⟩ := onlyNamed put out isPut
    rw [(finds.unique changes.finds).2]
    exact same
  · intro named put out isPut
    obtain ⟨answer, device, changes⟩ := exists_changes out isPut
    exact ⟨answer, device, changes,
      named changes.filled answer device changes.finds changes.held⟩

/-- Every change is of the device that the lookup found first. It is of a device with the address
that was given exactly if that is the address of the device found, if one is found at all and a
session token is left. -/
theorem changes_first_found (update : Update) (mac : String) (client : Client) :
    (∀ put ∈ update.news mac client, put.method = .put →
      ∃ answer device, update.Changes mac client put answer device) ∧
    (client.wire.IsReal → (update.ChangesOnlyNamed mac client ↔
      (update.blank? mac = none → ∀ answer device, client.Finds mac answer device →
        (client.tokens.absorb answer.cookies).hasSession = true → SameAddress device.mac mac))) :=
  ⟨fun _ => exists_changes, changesOnlyNamed_iff⟩

theorem changes_first_found_sample :
    let client := holder [.answer foundDevice, .dropped]
    (Update.rename "Attic").ChangesOnlyNamed "AA:BB" client ∧
      ∃ put answer device, put.method = .put ∧
        (Update.rename "Attic").Changes "AA:BB" client put answer device := by
  intro client
  obtain ⟨first, iff⟩ := changes_first_found (.rename "Attic") "AA:BB" client
  have found : ((getDeviceByMac "AA:BB").run client).1.map (·.mac) = .ok "aa:bb" := by
    decide +kernel
  have put : ((Update.rename "Attic").news "AA:BB" client).any (·.method = .put) = true := by
    decide +kernel
  constructor
  · refine (iff isReal_foundDevice).mpr fun _ answer device finds _ => ?_
    rw [getDeviceByMac_of_finds (by decide) finds] at found
    have address : device.mac = "aa:bb" := Except.ok.inj found
    rw [address]
    decide
  · obtain ⟨put, out, isPut⟩ := List.any_eq_true.mp put
    obtain ⟨answer, device, changes⟩ := first put out (of_decide_eq_true isPut)
    exact ⟨put, answer, device, of_decide_eq_true isPut, changes⟩

/-- Two devices, as the list of all devices has them. -/
def twoDevices : Answer :=
  ⟨200, [], Text.bytes ("\x7b\"data\":[\x7b\"_id\":\"1\",\"mac\":\"aa:01\"\x7d," ++
    "\x7b\"_id\":\"2\",\"mac\":\"aa:02\"\x7d]\x7d"), true, []⟩

/-- An address that leads to the list of all devices disables the first of them. -/
theorem disable_of_listing :
    let client := holder [.answer twoDevices, .dropped]
    ((Update.disable true).news "../device" client).map (fun sent => (sent.method, sent.url.text)) =
      [(.get, "https://console.local/api/s/default/stat/device"),
        (.put, "https://console.local/api/s/default/rest/device/1")] ∧
    ¬ (Update.disable true).ChangesOnlyNamed "../device" client := by
  intro client
  have sent : ((Update.disable true).news "../device" client).map
      (fun sent => (sent.method, sent.url.text)) =
      [(.get, "https://console.local/api/s/default/stat/device"),
        (.put, "https://console.local/api/s/default/rest/device/1")] := by decide +kernel
  have found : ((getDeviceByMac "../device").run client).1.map (·.mac) = .ok "aa:01" := by
    decide +kernel
  refine ⟨sent, fun onlyNamed => ?_⟩
  have put : ((Update.disable true).news "../device" client).any (·.method = .put) = true := by
    decide +kernel
  obtain ⟨put, out, isPut⟩ := List.any_eq_true.mp put
  obtain ⟨answer, device, changes, same⟩ := onlyNamed put out (of_decide_eq_true isPut)
  rw [getDeviceByMac_of_finds (by decide) changes.finds] at found
  have address : device.mac = "aa:01" := Except.ok.inj found
  rw [address] at same
  exact absurd same (by decide)

end Update

end NetConsole
