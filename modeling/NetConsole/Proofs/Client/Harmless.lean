import NetConsole.Proofs.Client.Wording
import NetConsole.Proofs.Json.RoundTrip
import NetConsole.Proofs.Records.Documents
import NetConsole.Proofs.Text.Utf8

/-!
# Harmless requests

Two things that a request can ask for take an access point out of service: a restart, and a change
of its record that disables it. Whether a request asks for either can be read off its body alone,
and of the calls that word their own requests only two ever do.
-/

set_option autoImplicit false

namespace NetConsole

open Json

/-- A body is the text of a JSON value. -/
def ReadsAs (body : List UInt8) (value : Json) : Prop :=
  ∃ text, body = Text.bytes text ∧ parse text = .ok value

/-- A request with this method and body neither restarts nor disables anything. -/
structure IsHarmless (method : Method) (body : List UInt8) : Prop where
  runs : ∀ value, ReadsAs body value → value.get? "cmd" ≠ some (.string "restart")
  serves : method = .put → ∀ value, ReadsAs body value →
    value.get? "disabled" ≠ some (.bool true)

def Request.IsHarmless (request : Request) : Prop :=
  NetConsole.IsHarmless request.method (request.body.getD [])

def Sent.IsHarmless (sent : Sent) : Prop := NetConsole.IsHarmless sent.method sent.body

theorem Sent.Words.isHarmless {sent : Sent} {session : Session} {request : Request}
    (words : sent.Words session request) (harmless : request.IsHarmless) : sent.IsHarmless := by
  rw [Sent.IsHarmless, words.method, words.body]
  exact harmless

/-! ## Bodies -/

theorem readsAs_compact {value read : Json} (integral : IsIntegral value)
    (shallow : value.depth ≤ maxDepth) (reads : ReadsAs (Text.bytes value.compact) read) :
    read = value.sorted := by
  obtain ⟨text, same, parsed⟩ := reads
  rw [← Text.bytes_injective same, parse_compact integral shallow] at parsed
  cases parsed
  rfl

theorem isHarmless_nil (method : Method) : IsHarmless method [] := by
  have unread (value : Json) : ¬ ReadsAs [] value := by
    rintro ⟨text, same, parsed⟩
    obtain rfl : "" = text := Text.bytes_injective same
    have refused : (parse "").toBool = false := by decide
    simp [parsed, Except.toBool] at refused
  exact ⟨fun value reads => absurd reads (unread value),
    fun _ value reads => absurd reads (unread value)⟩

theorem eq_of_sorted_eq {value : Json} {scalar : Json} (flat : scalar.depth = 0)
    (same : value.sorted = scalar) : value = scalar := by
  cases value with
  | null | bool | number | string => exact same
  | array => subst same; simp [sorted, depth] at flat
  | object => subst same; simp [sorted, depth] at flat

/-- An object of flat values is harmless if its own members are. -/
theorem isHarmless_object {method : Method} {members : List (String × Json)}
    (flat : ∀ member ∈ members, IsFlat member.2)
    (runs : lookup "cmd" members ≠ some (.string "restart"))
    (serves : method = .put → lookup "disabled" members ≠ some (.bool true)) :
    IsHarmless method (Text.bytes (Json.object members).compact) := by
  have integral : IsIntegral (.object members) :=
    ⟨trivial, everyMember_iff.mpr fun member there => (flat member there).integral⟩
  have shallow : (Json.object members).depth ≤ maxDepth := by
    have each : membersDepth members ≤ 0 := membersDepth_le.mpr fun member there =>
      (flat member there).shallow.le
    rw [depth, Nat.le_zero.mp each]
    decide
  have found {key : String} {read scalar : Json} (isFlat : scalar.depth = 0)
      (reads : ReadsAs (Text.bytes (Json.object members).compact) read)
      (there : read.get? key = some scalar) : lookup key members = some scalar := by
    rw [readsAs_compact integral shallow reads, get?_sorted] at there
    obtain ⟨value, held, same⟩ := Option.map_eq_some_iff.mp there
    rw [← eq_of_sorted_eq isFlat same]
    exact held
  exact ⟨fun value reads restarts => runs (found rfl reads restarts),
    fun puts value reads disables => serves puts (found rfl reads disables)⟩

theorem Request.isHarmless_withRecord {α : Type} [Record α] {request : Request} {record : α}
    {members : List (String × Json)} (written : Record.toJson record = .object members)
    (flat : ∀ member ∈ members, IsFlat member.2)
    (runs : lookup "cmd" members ≠ some (.string "restart"))
    (serves : request.method = .put → lookup "disabled" members ≠ some (.bool true)) :
    (request.withRecord record).IsHarmless := by
  have harmless := isHarmless_object flat runs serves
  rw [← written] at harmless
  exact harmless

/-! ## Requests -/

/-- Limits that machine words hold. -/
structure GuestLimits.Fits (limits : GuestLimits) : Prop where
  minutes : ∀ i, limits.minutes = some i → IsWord i
  up : ∀ i, limits.up = some i → IsWord i
  down : ∀ i, limits.down = some i → IsWord i
  bytes : ∀ i, limits.bytes = some i → IsWord i

theorem isFlat_of_mem_memberIf {key : String} {value : Option Json}
    (flat : ∀ held, value = some held → IsFlat held) :
    ∀ member ∈ memberIf key value, IsFlat member.2 := by
  cases value with
  | none => simp [memberIf]
  | some held => simpa [memberIf] using flat held rfl

theorem lookup_memberIf_of_ne {key other : String} (apart : other ≠ key) (value : Option Json) :
    lookup key (memberIf other value) = none := by
  cases value <;> simp [memberIf, lookup, apart]

theorem GuestLimits.Fits.isFlat_members {order : StationOrder} (fits : order.limits.Fits) :
    ∀ member ∈ order.members, IsFlat member.2 := by
  have limit {i : Option Int} (isWord : ∀ n, i = some n → IsWord n) (held : Json)
      (same : i.map ofInteger = some held) : IsFlat held := by
    obtain ⟨n, there, rfl⟩ := Option.map_eq_some_iff.mp same
    exact isFlat_integer (isWord n there)
  intro member there
  simp only [StationOrder.members, List.mem_append, or_assoc] at there
  rcases there with fixed | minutes | up | down | bytes | accessPoint
  · simp only [List.mem_cons, List.not_mem_nil, or_false] at fixed
    rcases fixed with rfl | rfl <;> simp
  · exact isFlat_of_mem_memberIf (limit fits.minutes) member minutes
  · exact isFlat_of_mem_memberIf (limit fits.up) member up
  · exact isFlat_of_mem_memberIf (limit fits.down) member down
  · exact isFlat_of_mem_memberIf (limit fits.bytes) member bytes
  · refine isFlat_of_mem_memberIf (fun held same => ?_) member accessPoint
    obtain ⟨address, -, rfl⟩ := Option.map_eq_some_iff.mp same
    exact isFlat_string address

namespace Client

theorem isHarmless_login (username password : String) :
    (loginRequest username password).IsHarmless := by
  have flat : ∀ member ∈ [("username", Json.string username), ("password", .string password)],
      IsFlat member.2 := by simp
  have runs : Json.lookup "cmd" [("username", Json.string username), ("password", .string password)] ≠
      some (.string "restart") := by simp [Json.lookup]
  have harmless : NetConsole.IsHarmless .post _ :=
    isHarmless_object flat runs fun same => by cases same
  simpa only [Request.IsHarmless, loginRequest, credentials, Option.getD_some] using harmless

theorem isHarmless_logout : logoutRequest.IsHarmless := isHarmless_nil _

theorem isHarmless_list (path : String) (paging : Option Paging) :
    (listRequest path paging).IsHarmless :=
  isHarmless_nil _

theorem isHarmless_deviceOrder {action : DeviceAction} (mac : String)
    (other : action ≠ .restart) : (deviceOrderRequest action mac).IsHarmless := by
  refine Request.isHarmless_withRecord rfl ?_ ?_ (fun same => nomatch same)
  · simp [DeviceOrder.members]
  · cases action with
    | restart => exact absurd rfl other
    | startLocating | stopLocating => simp [DeviceOrder.members, Json.lookup, DeviceAction.name]

theorem isHarmless_stationOrder {order : StationOrder} (fits : order.limits.Fits) :
    (stationOrderRequest order).IsHarmless := by
  refine Request.isHarmless_withRecord rfl fits.isFlat_members ?_ (fun same => nomatch same)
  simp only [StationOrder.members, Json.lookup_append]
  have missing {key : String} (apart : key ≠ "cmd") (value : Option Json) :
      Json.lookup "cmd" (memberIf key value) = none := lookup_memberIf_of_ne apart value
  simp only [missing (by decide : "minutes" ≠ "cmd"), missing (by decide : "up" ≠ "cmd"),
    missing (by decide : "down" ≠ "cmd"), missing (by decide : "bytes" ≠ "cmd"),
    missing (by decide : "ap_mac" ≠ "cmd"), Option.none_or]
  cases order.action <;> simp [Json.lookup, StationAction.name]

theorem isHarmless_change (id : String) {change : DeviceChange}
    (enables : change.disabled ≠ some true) : (changeRequest id change).IsHarmless := by
  obtain ⟨disabled, name⟩ := change
  refine Request.isHarmless_withRecord rfl ?_ ?_ fun _ => ?_
  · cases disabled <;> cases name <;> simp [DeviceChange.members, memberIf]
  · cases disabled <;> cases name <;> simp [DeviceChange.members, memberIf, Json.lookup]
  · cases disabled with
    | none => cases name <;> simp [DeviceChange.members, memberIf, Json.lookup]
    | some disabled => cases name <;> simp_all [DeviceChange.members, memberIf, Json.lookup]

end Client

/-! ## Calls -/

namespace Call

/-- A call that words its own requests, neither restarts nor disables, and sets no limit that a
machine word cannot hold. -/
def IsHarmless : Call → Prop
  | command _ _ _ _ | execute _ _ | executeBytes _ | executeWriting _ => False
  | restartAp _ => False
  | disableAp _ disabled => disabled = false
  | authorizeGuest _ limits => limits.Fits
  | _ => True

theorem OfChange.isHarmless {mac : String} {change : DeviceChange}
    (enables : change.disabled ≠ some true) {request : Request}
    (asked : OfChange mac change request) : request.IsHarmless := by
  obtain rfl | ⟨id, rfl⟩ := asked
  · exact Client.isHarmless_list _ _
  · exact Client.isHarmless_change id enables

theorem IsHarmless.asked {call : Call} (harmless : call.IsHarmless) {request : Request}
    (asked : call.MayAsk request) : request.IsHarmless := by
  cases call with
  | command | execute | executeBytes | executeWriting | restartAp => cases harmless
  | login username password => obtain rfl := asked; exact Client.isHarmless_login _ _
  | logout => obtain rfl := asked; exact Client.isHarmless_logout
  | list | lookup | listDevicesShort | getDeviceByMac | deviceIp | deviceId | isLocating =>
      obtain rfl := asked
      exact Client.isHarmless_list _ _
  | setLocate mac enabled =>
      obtain rfl := asked
      cases enabled <;> exact Client.isHarmless_deviceOrder mac (by decide)
  | disableAp mac disabled =>
      obtain rfl : disabled = false := harmless
      exact OfChange.isHarmless (by decide) asked
  | renameAp mac name => exact OfChange.isHarmless (by simp) asked
  | authorizeGuest mac limits => obtain rfl := asked; exact Client.isHarmless_stationOrder harmless
  | blockClient | unauthorizeGuest =>
      obtain rfl := asked
      apply Client.isHarmless_stationOrder
      constructor <;> simp

end Call

end NetConsole
