import NetConsole.Proofs.Client.Scope
import NetConsole.Proofs.Client.Wording

/-!
# Where requests go

Every operation that words its own requests puts a fixed word in front of what it is given, so
nothing that a caller or a controller puts into a path can change where it leads to: such a request
goes to the scheme, the host and the port of the controller.
-/

set_option autoImplicit false

namespace NetConsole

open Url

/-! ## Paths that begin with a word -/

/-- A path that begins with a fixed word, after a slash or not. -/
def BeginsWithWord (path : String) : Prop :=
  ∃ word rest, IsWord word ∧
    (path.toList = word ++ '/' :: rest ∨ path.toList = '/' :: (word ++ '/' :: rest))

theorem BeginsWithWord.append {path : String} (begins : BeginsWithWord path) (more : String) :
    BeginsWithWord (path ++ more) := by
  obtain ⟨word, rest, isWord, spelled⟩ := begins
  refine ⟨word, rest ++ more.toList, isWord, ?_⟩
  rw [String.toList_append]
  rcases spelled with same | same
  · left
    rw [same, List.append_assoc, List.cons_append]
  · right
    rw [same, List.cons_append, List.append_assoc, List.cons_append]

namespace Client

def resourcePaths : List String := [alarmsPath, eventsPath, devicesPath, sitesPath, usersPath]

theorem begins_resource {path : String} (resource : path ∈ resourcePaths) :
    BeginsWithWord path := by
  simp only [resourcePaths, List.mem_cons, List.not_mem_nil, or_false] at resource
  rcases resource with rfl | rfl | rfl | rfl | rfl
  · exact ⟨['l', 'i', 's', 't'], ['a', 'l', 'a', 'r', 'm'], by decide, .inl (by decide)⟩
  · exact ⟨['l', 'i', 's', 't'], ['e', 'v', 'e', 'n', 't'], by decide, .inl (by decide)⟩
  · exact ⟨['s', 't', 'a', 't'], ['d', 'e', 'v', 'i', 'c', 'e'], by decide, .inl (by decide)⟩
  · exact ⟨['v', '1'], ['s', 'i', 't', 'e', 's'], by decide, .inr (by decide)⟩
  · exact ⟨['l', 'i', 's', 't'], ['u', 's', 'e', 'r'], by decide, .inl (by decide)⟩

theorem begins_deviceRecords : BeginsWithWord deviceRecordsPath :=
  ⟨['r', 'e', 's', 't'], ['d', 'e', 'v', 'i', 'c', 'e'], by decide, .inl (by decide)⟩

theorem begins_deviceManager : BeginsWithWord deviceManagerPath :=
  ⟨['c', 'm', 'd'], ['d', 'e', 'v', 'm', 'g', 'r'], by decide, .inl (by decide)⟩

theorem begins_stationManager : BeginsWithWord stationManagerPath :=
  ⟨['c', 'm', 'd'], ['s', 't', 'a', 'm', 'g', 'r'], by decide, .inl (by decide)⟩

theorem begins_login (username password : String) :
    BeginsWithWord (loginRequest username password).path :=
  have spelled : "/api/login".toList = '/' :: (['a', 'p', 'i'] ++ '/' :: ['l', 'o', 'g', 'i', 'n']) := by
    decide
  ⟨_, _, by decide, .inr spelled⟩

theorem begins_logout : BeginsWithWord logoutRequest.path :=
  ⟨['a', 'p', 'i'], ['l', 'o', 'g', 'o', 'f', 'f'], by decide, .inr (by decide)⟩

theorem begins_device (mac : String) : BeginsWithWord (deviceRequest mac).path :=
  ((begins_resource (by simp [resourcePaths])).append "/").append mac

theorem begins_change (id : String) (change : DeviceChange) :
    BeginsWithWord (changeRequest id change).path :=
  (begins_deviceRecords.append "/").append id

end Client

/-! ## Where they lead -/

structure Url.SameOrigin (one two : Url) : Prop where
  scheme : one.scheme = two.scheme
  place : one.authority.map (fun a => (a.host, a.port)) =
    two.authority.map fun a => (a.host, a.port)

namespace Session

/-- Both bases of a session are where the controller is. -/
structure IsAt (session : Session) (controller : Url) : Prop where
  root : session.root.scheme = controller.scheme ∧ session.root.authority = controller.authority
  siteBase : session.siteBase.scheme = controller.scheme ∧
    session.siteBase.authority = controller.authority

theorem isAt_of_open? {controller : Url} {site : String} {session : Session}
    (opened : open? controller site = .ok session) : session.IsAt controller := by
  unfold open? at opened
  split at opened
  case isTrue => cases opened
  case isFalse =>
    dsimp only at opened
    split at opened
    case h_1 => cases opened
    case h_2 siteBase joined =>
      cases opened
      obtain ⟨scheme, authority⟩ := join_origin (isRelative_site site) joined
      have root : controller.withTrailingSlash.scheme = controller.scheme ∧
          controller.withTrailingSlash.authority = controller.authority :=
        ⟨controller.withTrailingSlash_scheme, controller.withTrailingSlash_authority⟩
      exact ⟨root, scheme.trans root.1, authority.trans root.2⟩

theorem origin_of_resolved {base url : Url} {text : String} (relative : IsRelative text)
    (resolved : (base.join text).mapError ClientError.invalidUrl = .ok url) :
    url.scheme = base.scheme ∧ url.authority = base.authority := by
  cases joined : base.join text with
  | error cause =>
      rw [joined] at resolved
      cases resolved
  | ok led =>
      rw [joined] at resolved
      cases resolved
      exact join_origin relative joined

theorem IsAt.resolve {session : Session} {controller : Url} (isAt : session.IsAt controller)
    {path : String} (begins : BeginsWithWord path) {url : Url}
    (resolved : session.resolve path = .ok url) :
    url.scheme = controller.scheme ∧ url.authority = controller.authority := by
  obtain ⟨word, rest, isWord, spelled | spelled⟩ := begins
  · have relative := isWord.isRelative spelled
    rw [resolve_of_isRelative session relative] at resolved
    obtain ⟨scheme, authority⟩ := origin_of_resolved relative resolved
    exact ⟨scheme.trans isAt.siteBase.1, authority.trans isAt.siteBase.2⟩
  · have tail : (String.ofList (word ++ '/' :: rest)).toList = word ++ '/' :: rest :=
      String.toList_ofList
    have whole : path = "/" ++ String.ofList (word ++ '/' :: rest) := by
      apply String.toList_inj.mp
      rw [String.toList_append, tail]
      exact spelled
    rw [whole, resolve_slash] at resolved
    obtain ⟨scheme, authority⟩ := origin_of_resolved (isWord.isRelative tail) resolved
    exact ⟨scheme.trans isAt.root.1, authority.trans isAt.root.2⟩

end Session

theorem Client.sameOrigin_stripUser (url : Url) : (stripUser url).SameOrigin url := by
  unfold stripUser
  split
  · constructor
    · rfl
    · dsimp only
      cases url.authority <;> rfl
  · exact ⟨rfl, rfl⟩

theorem Url.sameOrigin_appendPairs (url : Url) (pairs : List (String × String)) :
    (url.appendPairs pairs).SameOrigin url := by
  unfold appendPairs
  split <;> exact ⟨rfl, rfl⟩

theorem Sent.Words.sameOrigin {sent : Sent} {session : Session} {request : Request}
    (words : sent.Words session request) {controller : Url} (isAt : session.IsAt controller)
    (begins : BeginsWithWord request.path) : sent.url.SameOrigin controller := by
  obtain ⟨url, resolved, same⟩ := words.url
  obtain ⟨scheme, authority⟩ := isAt.resolve begins resolved
  have stripped := Client.sameOrigin_stripUser (url.appendPairs request.query)
  have appended := Url.sameOrigin_appendPairs url request.query
  rw [same]
  constructor
  · exact (stripped.scheme.trans appended.scheme).trans scheme
  · rw [stripped.place, appended.place, authority]

/-! ## Calls that word their own requests -/

namespace Call

open Operation

/-- Whether a call words its own requests. The paths of lists and lookups are those of the kinds of
records. -/
def IsTyped : Call → Prop
  | list _ path _ | lookup _ _ path _ => path ∈ Client.resourcePaths
  | command _ _ _ _ | execute _ _ | executeBytes _ | executeWriting _ => False
  | _ => True

theorem begins_ofChange {mac : String} {change : DeviceChange} {request : Request}
    (asked : OfChange mac change request) : BeginsWithWord request.path := by
  obtain rfl | ⟨id, rfl⟩ := asked
  · exact Client.begins_device mac
  · exact Client.begins_change id change

theorem IsTyped.begins {call : Call} (typed : call.IsTyped) {request : Request}
    (asked : call.MayAsk request) : BeginsWithWord request.path := by
  cases call with
  | command | execute | executeBytes | executeWriting => exact absurd typed id
  | disableAp | renameAp => exact begins_ofChange asked
  | login username password => obtain rfl := asked; exact Client.begins_login _ _
  | logout => obtain rfl := asked; exact Client.begins_logout
  | list => obtain rfl := asked; exact Client.begins_resource typed
  | lookup =>
      obtain rfl := asked
      exact ((Client.begins_resource typed).append "/").append _
  | listDevicesShort =>
      obtain rfl := asked
      exact Client.begins_resource (by simp [Client.resourcePaths, Client.listRequest])
  | getDeviceByMac mac | deviceIp mac | deviceId mac | isLocating mac =>
      obtain rfl := asked
      exact Client.begins_device mac
  | setLocate | restartAp => obtain rfl := asked; exact Client.begins_deviceManager
  | blockClient | authorizeGuest | unauthorizeGuest =>
      obtain rfl := asked
      exact Client.begins_stationManager

theorem session_clientAfter (calls : List Call) {client : Client}
    (proper : client.tokens.Proper) : (clientAfter calls client).session = client.session := by
  induction calls generalizing client with
  | nil => rfl
  | cons call rest ih =>
      have follows := call.turn_follows proper
      exact (ih (follows.proper proper)).trans follows.session

/-- Whatever calls were made on a client before, a call that words its own requests sends them
nowhere but to the scheme, the host and the port of the controller, and tries nowhere else. -/
theorem sent_to_controller {controller : Url} {site : String} {session : Session}
    (opened : Session.open? controller site = .ok session) (userAgent : String) (wire : Wire)
    (calls : List Call) {call : Call} (typed : call.IsTyped) :
    let before := clientAfter calls (.fresh { session with userAgent } wire)
    (∀ sent ∈ (call.turn before).news, sent.url.SameOrigin controller) ∧
      ∃ tried, (call.turn before).after.attempts = before.attempts ++ tried ∧
        ∀ request ∈ tried, ∀ url, session.resolve request.path = .ok url →
          url.SameOrigin controller := by
  intro before
  have isAt := Session.isAt_of_open? opened
  have fresh : (Client.fresh { session with userAgent } wire).tokens.Proper := .empty
  have proper : before.tokens.Proper := (tokens_clientAfter calls fresh).2
  have same : before.session = { session with userAgent } := session_clientAfter calls fresh
  have there : before.session.IsAt controller := by
    rw [same]
    exact ⟨isAt.root, isAt.siteBase⟩
  obtain ⟨tried, attempts, begins⟩ :=
    ((asks_operation call).mono fun _ asked => typed.begins asked) before
  refine ⟨fun sent out => ?_, tried, attempts, fun request member url resolved => ?_⟩
  · obtain ⟨worded, alsoAttempts, words⟩ := (call.turn_follows proper).worded
    have tries : worded = tried := List.append_cancel_left (alsoAttempts.symm.trans attempts)
    obtain ⟨request, member, wording⟩ := exists_of_mem_sublistForall₂ words out
    rw [tries] at member
    exact wording.sameOrigin there (begins request member)
  · obtain ⟨scheme, authority⟩ := isAt.resolve (begins request member) resolved
    exact ⟨scheme, by rw [authority]⟩

/-- A controller that tells of a device whose id would name another host. -/
def strangeWire : Wire where
  reaches := fun _ => true
  replies :=
    [.answer ⟨200, [("set-cookie", "unifises=s"), ("set-cookie", "csrf_token=t")], [], true, []⟩,
      .answer ⟨200, [], Text.bytes ("\x7b\"data\":[\x7b\"_id\":\"" ++ "\\\\\\\\other.example" ++
        "\",\"mac\":\"m\"\x7d]\x7d"), true, []⟩]
  sent := []

/-- The session with the console for a site that would name another host. -/
def strangeSession : Session where
  root := Session.console.withTrailingSlash
  siteBase :=
    { Session.console with
      path := .segments ["proxy", "network", "api", "s", "", "", "other.example", ""] }
  site := "//other.example"
  userAgent := "agent"

/-- Both requests of a call on such a device, at an address that would name another host. -/
theorem sent_to_controller_sample :
    let before := clientAfter [.login "u" "p"] (.fresh strangeSession strangeWire)
    let turn := (Call.disableAp "//other.example/\\" true).turn before
    turn.news.map (fun sent => sent.url.text) =
        ["https://console.local/proxy/network/api/s///other.example/stat/device///other.example//",
          "https://console.local/proxy/network/api/s///other.example/rest/device///other.example"] ∧
      ∀ sent ∈ turn.news, sent.url.SameOrigin Session.console := by
  have read : (Session.open? Session.console "//other.example").toOption.map
      (fun session => { session with userAgent := "agent" }) = some strangeSession := by
    decide +kernel
  cases opened : Session.open? Session.console "//other.example" with
  | error cause =>
      rw [opened] at read
      cases read
  | ok session =>
      rw [opened] at read
      have same : { session with userAgent := "agent" } = strangeSession := Option.some.inj read
      have sent := (sent_to_controller opened "agent" strangeWire [.login "u" "p"]
        (show (Call.disableAp "//other.example/\\" true).IsTyped from trivial)).1
      rw [same] at sent
      exact ⟨by decide +kernel, sent⟩

end Call

end NetConsole
