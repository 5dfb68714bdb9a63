import NetConsole.Client.Orders
import NetConsole.Proofs.Stepwise

/-!
# Operations that are put together from exchanges

Apart from logging in and out, whatever an operation does to a client it does by exchanging requests
for answers. So two clients that go through an exchange side by side go through every such operation
side by side.
-/

set_option autoImplicit false

namespace NetConsole

open Stepwise

namespace Operation

/-- Operations that are put together from exchanges. -/
inductive Composed : {α : Type} → Operation α → Prop where
  | pure {α : Type} (value : α) : Composed (Pure.pure value : Operation α)
  | throw {α : Type} (cause : ClientError) : Composed (MonadExcept.throw cause : Operation α)
  | exchange (request : Request) : Composed (Client.exchange request)
  | bind {α β : Type} {op : Operation α} {next : α → Operation β} :
      Composed op → (∀ value, Composed (next value)) → Composed (op >>= next)

theorem composed_liftM {α : Type} (result : Except ClientError α) :
    Composed (liftM result : Operation α) := by
  cases result with
  | ok value => exact .pure value
  | error cause => exact .throw cause

theorem Composed.parallel {together : Client → Client → Prop}
    (exchanges : ∀ request,
      Parallel together (Client.exchange request) (Client.exchange request))
    {α : Type} {op : Operation α} (composed : Composed op) : Parallel together op op := by
  induction composed with
  | pure value => exact parallel_pure value
  | throw cause => exact parallel_throw cause
  | exchange request => exact exchanges request
  | bind _ _ first rest => exact first.bind rest

end Operation

namespace Client

open Operation

/-! ## Requests -/

theorem composed_send (request : Request) : Composed (send request) := by
  refine (Composed.exchange request).bind fun pair => ?_
  dsimp only
  split
  · exact .pure _
  · exact .throw _

theorem composed_executeBytes (request : Request) : Composed (executeBytes request) := by
  refine (composed_send request).bind fun answer => ?_
  split
  · exact .pure _
  · exact .throw _

theorem composed_executeShape (shape : Json.Shape) (request : Request) :
    Composed (executeShape shape request) := by
  refine (composed_send request).bind fun answer => ?_
  split
  · exact (composed_liftM _).bind fun _ => .pure _
  · exact .throw _

variable {α : Type} [Record α]

theorem composed_execute (request : Request) : Composed (execute request : Operation α) :=
  (composed_executeShape _ request).bind fun _ => .pure _

/-! ## Lists and lookups -/

theorem composed_list (path : String) (paging : Option Paging) :
    Composed (list α path paging) := by
  refine (composed_executeShape _ _).bind fun pair => ?_
  dsimp only
  split
  · exact .pure _
  · exact .throw _

theorem composed_first (resource path identifier : String) :
    Composed (first α resource path identifier) := by
  refine (composed_list path none).bind fun records => ?_
  cases records with
  | nil => exact .throw _
  | cons record rest => exact .pure record

theorem composed_lookup (resource path : String) (id : Int) :
    Composed (lookup α resource path id) := by
  by_cases small : id < 1
  · rw [lookup, if_pos small]
    exact .throw _
  · rw [lookup, if_neg small]
    exact composed_first resource _ _

theorem composed_listDevicesShort (filter : DeviceFilter) (paging : Option Paging) :
    Composed (listDevicesShort filter paging) :=
  (composed_list devicesPath paging).bind fun _ => .pure _

theorem composed_requireMac (mac : String) : Composed (requireMac mac) := by
  unfold requireMac
  split
  · exact .throw _
  · exact .pure _

theorem composed_getDeviceByMac (mac : String) : Composed (getDeviceByMac mac) :=
  (composed_requireMac mac).bind fun _ => composed_first _ _ _

theorem composed_deviceIp (mac : String) : Composed (deviceIp mac) := by
  refine (composed_getDeviceByMac mac).bind fun device => ?_
  split
  · exact .pure _
  · exact .throw _

theorem composed_isLocating (mac : String) : Composed (isLocating mac) :=
  (composed_getDeviceByMac mac).bind fun _ => .pure _

/-! ## Orders -/

theorem composed_command (method : Method) (path : String) (body : α) :
    Composed (command method path body) := composed_execute _

theorem composed_orderDevice (action : DeviceAction) (mac : String) :
    Composed (orderDevice action mac) :=
  (composed_requireMac mac).bind fun _ => composed_command _ _ _

theorem composed_changeDevice (mac : String) (change : DeviceChange) :
    Composed (changeDevice mac change) :=
  ((composed_getDeviceByMac mac).bind fun _ => .pure _).bind fun _ => composed_command _ _ _

theorem composed_renameAp (mac name : String) : Composed (renameAp mac name) := by
  unfold renameAp
  split
  · exact .throw _
  · exact composed_changeDevice mac _

theorem composed_orderStation (order : StationOrder) : Composed (orderStation order) :=
  (composed_requireMac order.mac).bind fun _ => composed_command _ _ _

end Client

end NetConsole
