import NetConsole.Proofs.Client.Traffic

/-!
# Calls and turns

The calls that a caller can make on a client, in any order, and what one of them does to it. Login
and logout are the calls that drop tokens; every other call only makes requests.
-/

set_option autoImplicit false

namespace NetConsole

open Operation
open Happening (exchanges Borne heldBy)

/-! ## Calls -/

/-- A call on a client. Only a login and a logout may be made without a session token, so a request
that a caller words himself is never anonymous. -/
inductive Call : Type 1 where
  | login (username password : String)
  | logout
  | list (α : Type) [Record α] (path : String) (paging : Option Paging)
  | lookup (α : Type) [Record α] (resource path : String) (id : Int)
  | command (α : Type) [Record α] (method : Method) (path : String) (body : α)
  | listDevicesShort (filter : DeviceFilter) (paging : Option Paging)
  | getDeviceByMac (mac : String)
  | deviceIp (mac : String)
  | deviceId (mac : String)
  | isLocating (mac : String)
  | setLocate (mac : String) (enabled : Bool)
  | restartAp (mac : String)
  | disableAp (mac : String) (disabled : Bool)
  | renameAp (mac name : String)
  | blockClient (mac : String) (blocked : Bool)
  | authorizeGuest (mac : String) (limits : GuestLimits)
  | unauthorizeGuest (mac : String)
  | execute (shape : Json.Shape) (request : Request)
  | executeBytes (request : Request)
  | executeWriting (request : Request)

namespace Call

/-- The request that a caller words. -/
def worded (request : Request) : Request := { request with anonymous := false }

/-- What a call does to a client. -/
def operation : Call → Operation Unit
  | login username password => ending (Client.login username password)
  | logout => Client.logout
  | list α path paging => ending (Client.list α path paging)
  | lookup α resource path id => ending (Client.lookup α resource path id)
  | command _ method path body => ending (Client.command method path body)
  | listDevicesShort filter paging => ending (Client.listDevicesShort filter paging)
  | getDeviceByMac mac => ending (Client.getDeviceByMac mac)
  | deviceIp mac => ending (Client.deviceIp mac)
  | deviceId mac => ending (Client.deviceId mac)
  | isLocating mac => ending (Client.isLocating mac)
  | setLocate mac enabled => ending (Client.setLocate mac enabled)
  | restartAp mac => ending (Client.restartAp mac)
  | disableAp mac disabled => ending (Client.disableAp mac disabled)
  | renameAp mac name => ending (Client.renameAp mac name)
  | blockClient mac blocked => ending (Client.blockClient mac blocked)
  | authorizeGuest mac limits => ending (Client.authorizeGuest mac limits)
  | unauthorizeGuest mac => ending (Client.unauthorizeGuest mac)
  | execute shape request => ending (Client.executeShape shape (worded request))
  | executeBytes request => ending (Client.executeBytes (worded request))
  | executeWriting request => fun client =>
      let ((_, outcome), after) := Client.executeWriting (worded request) client
      (outcome.map fun _ => (), after)

/-- Whether a call is a login or a logout, which need no session token. -/
def isAccount : Call → Bool
  | login _ _ | logout => true
  | _ => false

/-- How many requests there are behind the success of a call: a device record is looked up before
it is changed. -/
def requests : Call → Nat
  | disableAp _ _ | renameAp _ _ => 2
  | _ => 1

/-- The reset that a call begins with. -/
def resetFirst : Call → List Happening
  | login _ _ => [.reset]
  | _ => []

/-- The reset that a call ends with, when it ended in a certain way. -/
def resetLast : Call → Except ClientError Unit → List Happening
  | login _ _, .error (.authentication _) => [.reset]
  | logout, .ok () => [.reset]
  | _, _ => []

theorem makes_operation {call : Call} (ordinary : call.isAccount = false) :
    Makes true call.requests call.operation := by
  cases call with
  | login | logout => cases ordinary
  | list α path paging => exact (Client.makes_list path paging).ending
  | lookup α resource path id => exact (Client.makes_lookup resource path id).ending
  | command α method path body => exact (Client.makes_command method path body).ending
  | listDevicesShort filter paging => exact (Client.makes_listDevicesShort filter paging).ending
  | getDeviceByMac mac => exact (Client.makes_getDeviceByMac mac).ending
  | deviceIp mac => exact (Client.makes_deviceIp mac).ending
  | deviceId mac => exact (Client.makes_deviceId mac).ending
  | isLocating mac => exact (Client.makes_isLocating mac).ending
  | setLocate mac enabled => exact (Client.makes_orderDevice _ mac).ending
  | restartAp mac => exact (Client.makes_orderDevice _ mac).ending
  | disableAp mac disabled => exact (Client.makes_changeDevice mac _).ending
  | renameAp mac name => exact (Client.makes_renameAp mac name).ending
  | blockClient mac blocked => exact (Client.makes_orderStation _).ending
  | authorizeGuest mac limits => exact (Client.makes_orderStation _).ending
  | unauthorizeGuest mac => exact (Client.makes_orderStation _).ending
  | execute shape request => exact (Client.makes_executeShape shape fun _ => rfl).ending
  | executeBytes request => exact (Client.makes_executeBytes fun _ => rfl).ending
  | executeWriting request =>
      intro before proper
      have same := Client.executeWriting_eq_executeBytes (worded request) before
      have makes : Makes true 1 (ending (Client.executeBytes (worded request))) :=
        (Client.makes_executeBytes fun _ => rfl).ending
      have made := makes before proper
      rw [← same] at made
      exact made

theorem refuses_operation {call : Call} (ordinary : call.isAccount = false) :
    Refuses call.operation := by
  cases call with
  | login | logout => cases ordinary
  | list α path paging => exact (Client.refuses_list path paging).ending
  | lookup α resource path id => exact (Client.refuses_lookup resource path id).ending
  | command α method path body => exact (Client.refuses_command method path body).ending
  | listDevicesShort filter paging => exact (Client.refuses_listDevicesShort filter paging).ending
  | getDeviceByMac mac => exact (Client.refuses_getDeviceByMac mac).ending
  | deviceIp mac | deviceId mac | isLocating mac =>
      exact ((Client.refuses_getDeviceByMac mac).bind _).ending
  | setLocate mac enabled => exact (Client.refuses_orderDevice _ mac).ending
  | restartAp mac => exact (Client.refuses_orderDevice _ mac).ending
  | disableAp mac disabled => exact (Client.refuses_changeDevice mac _).ending
  | renameAp mac name => exact (Client.refuses_renameAp mac name).ending
  | blockClient mac blocked => exact (Client.refuses_orderStation _).ending
  | authorizeGuest mac limits => exact (Client.refuses_orderStation _).ending
  | unauthorizeGuest mac => exact (Client.refuses_orderStation _).ending
  | execute shape request => exact (Client.refuses_executeShape shape rfl).ending
  | executeBytes request => exact (Client.refuses_executeBytes rfl).ending
  | executeWriting request =>
      intro before none
      have same := Client.executeWriting_eq_executeBytes (worded request) before
      have refuses : Refuses (ending (Client.executeBytes (worded request))) :=
        (Client.refuses_executeBytes rfl).ending
      have refused := refuses before none
      rw [← same] at refused
      exact refused

end Call

end NetConsole
