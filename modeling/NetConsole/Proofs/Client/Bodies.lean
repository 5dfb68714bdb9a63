import NetConsole.Proofs.Client.Update
import NetConsole.Proofs.Records.Orders
import NetConsole.Proofs.Text.Utf8

/-!
# The bodies of orders

An order is sent in one request, whose body is the text of the order. Whoever reads that body has
the order again, with every limit as it was given and no other.
-/

set_option autoImplicit false

namespace NetConsole

open Json Operation

namespace Operation

/-- An operation sends a text: it sets out to make one request and no other, the body of which is
that text, and what goes out has the same body. -/
structure Sends {β : Type} (op : Operation β) (request : Request) (text : String) : Prop where
  tries : Tries request op
  worded : ∃ body, request.body = some body ∧ Text.exactText? body = some text
  out : ∀ before, (op.run before).2.wire.sent = before.wire.sent ∨
    ∃ sent, (op.run before).2.wire.sent = before.wire.sent ++ [sent] ∧
      Text.exactText? sent.body = some text
  /-- It does go out where it can be sent and is reached. -/
  goes : ∀ before url sent, Client.prepare before.session before.tokens request = .ok (url, sent) →
    before.wire.reaches sent.url = true → (op.run before).2.wire.sent = before.wire.sent ++ [sent]

end Operation

namespace Client

theorem command_sends {α : Type} [Record α] (method : Method) (path : String) (record : α) :
    (command method path record).Sends (commandRequest method path record) (Record.write record) where
  tries := tries_execute _
  worded := ⟨_, rfl, Text.exactText?_bytes _⟩
  out := by
    intro before
    rw [after_command]
    rcases exchange_sent (commandRequest method path record) before with nothing |
      ⟨url, sent, prepared, out⟩
    · exact .inl nothing
    · obtain ⟨-, resolved, goes⟩ := prepare_eq_ok prepared
      refine .inr ⟨sent, out, ?_⟩
      rw [(outgoing_words resolved goes).body]
      exact Text.exactText?_bytes _
  goes := by
    intro before url sent prepared reached
    rw [after_command]
    exact exchange_reached prepared reached

/-- An order to let a guest in. -/
def guestOrder (mac : String) (limits : GuestLimits) : StationOrder :=
  { action := .authorizeGuest, mac, limits }

theorem authorizeGuest_sends {mac : String} (given : Text.isBlankText mac = false)
    (limits : GuestLimits) : (authorizeGuest mac limits).Sends
      (stationOrderRequest (guestOrder mac limits)) (Record.write (guestOrder mac limits)) := by
  have same : authorizeGuest mac limits =
      command .post stationManagerPath (guestOrder mac limits) := by
    rw [authorizeGuest, orderStation, requireMac, given]
    rfl
  rw [same]
  exact command_sends .post stationManagerPath (guestOrder mac limits)

/-- Every order and every change is read back from its text, which holds what it must name and what
is set and nothing more; every command sends that text. A guest is let in by a text that is read as
the order with the address and the limits that were given. -/
theorem orders_read_back :
    (∀ order : DeviceOrder, ReadsBack order order.content) ∧
    (∀ order : StationOrder, order.limits.AreWords → ReadsBack order order.content) ∧
    (∀ change : DeviceChange, ReadsBack change change.content) ∧
    (∀ (α : Type) [Record α] (method : Method) (path : String) (record : α),
      (command method path record).Sends (commandRequest method path record)
        (Record.write record)) ∧
    ∀ (mac : String) (limits : GuestLimits), Text.isBlankText mac = false → limits.AreWords →
      (authorizeGuest mac limits).Sends (stationOrderRequest (guestOrder mac limits))
          (Record.write (guestOrder mac limits)) ∧
        Record.read (Record.write (guestOrder mac limits)) = .ok (guestOrder mac limits) ∧
        ∃ members, parse (Record.write (guestOrder mac limits)) = .ok (.object members) ∧
          ("cmd", .string "authorize-guest") ∈ members := by
  refine ⟨fun order => order.leavesOut.readsBack, fun order words =>
    (StationOrder.leavesOut words).readsBack, fun change => change.leavesOut.readsBack,
    fun _ _ => command_sends, ?guest⟩
  case guest =>
    intro mac limits given words
    have back := (@StationOrder.leavesOut (guestOrder mac limits) words).readsBack
    obtain ⟨members, parsed, exactly⟩ := back.parsed
    exact ⟨authorizeGuest_sends given limits, back.read, members, parsed,
      (exactly.mem_iff _ _).mpr rfl⟩

theorem orders_read_back_sample :
    let limits : GuestLimits := { minutes := some 60, accessPoint := some "the \"attic\"" }
    let text := "\x7b\"cmd\":\"authorize-guest\",\"mac\":\"aa:bb\",\"minutes\":60," ++
      "\"ap_mac\":\"the \\\"attic\\\"\"\x7d"
    (∃ sent, ((authorizeGuest "aa:bb" limits).run (holder [.dropped])).2.wire.sent = [sent] ∧
      Text.exactText? sent.body = some text) ∧
    Record.read text = .ok (guestOrder "aa:bb" limits) := by
  intro limits text
  have words : limits.AreWords :=
    ⟨by rintro i ⟨⟩; decide, by rintro i ⟨⟩, by rintro i ⟨⟩, by rintro i ⟨⟩⟩
  have written : Record.write (guestOrder "aa:bb" limits) = text := by decide +kernel
  have goes : ((authorizeGuest "aa:bb" limits).run (holder [.dropped])).2.wire.sent ≠ [] := by
    decide +kernel
  obtain ⟨-, -, -, -, guests⟩ := orders_read_back
  obtain ⟨sends, back, -⟩ := guests "aa:bb" limits (by decide) words
  rw [written] at sends back
  rcases sends.out (holder [.dropped]) with nothing | ⟨sent, out, body⟩
  · exact absurd nothing goes
  · exact ⟨⟨sent, out, body⟩, back⟩

end Client

end NetConsole
