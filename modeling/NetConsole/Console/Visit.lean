import NetConsole.Client.Account
import NetConsole.Client.Orders
import NetConsole.Console.Connection
import NetConsole.Console.Status
import NetConsole.Console.Views

/-!
# Visits to a controller

A visit is what a command does between login and logout: it asks the controller, keeps the records
it lists if a store is open, and prints.
-/

set_option autoImplicit false

namespace NetConsole.Console

/-! ## Visits -/

/-- Where a visit stands: the client, the store if one is open, and what was printed. -/
structure Visit where
  client : Client
  store : Option Store
  output : List UInt8

/-- A step of a visit. It changes the visit even if it fails. -/
abbrev Step (α : Type) := ExceptT Failure (StateM Visit) α

/-- What printing a text adds to the output: a line, unless the text is empty or output is not
wanted. -/
def printed (p : Presentation) (text : String) : List UInt8 :=
  if p.quiet ∨ text = "" then [] else Text.bytes (text ++ "\n")

namespace Step

def write (bytes : List UInt8) : Step Unit :=
  modify fun visit => { visit with output := visit.output ++ bytes }

def print (p : Presentation) (text : String) : Step Unit := write (printed p text)

def ask {α : Type} (operation : Operation α) : Step α :=
  ExceptT.mk do
    let visit ← get
    let (result, client) := operation.run visit.client
    set { visit with client }
    return result.mapError Failure.ofClient

/-- The field that records in the store are told apart by. -/
def keyField : String := "_id"

/-- Keeps records in the store if one is open, under the collection of their resource. -/
def keep {α : Type} [Record α] (resource : Resource) (key : α → String) (records : List α) :
    Step Unit := do
  let visit ← get
  match visit.store with
  | none => return ()
  | some store =>
      let documents := records.map fun record => (key record, Store.documentOf record)
      match store.upsert resource.collection keyField documents with
      | .ok (_, store) => set { visit with store := some store }
      | .error cause => throw (.ofStore cause)

/-- Refuses an action that was not confirmed; nobody can be asked. -/
def confirm (yes : Bool) (action : String) : Step Unit :=
  if yes then pure () else throw (.unconfirmed action)

/-- Prints the status of a reply, or the reply itself in the formats for programs. -/
def printReply (p : Presentation) (action : String) (reply : CommandReply) : Step Unit :=
  print p (match p.format with
    | .table | .plain => action ++ ": " ++ status reply p.color
    | format => replySheet.text format reply)

end Step

open Step

/-! ## Commands -/

def RecordCommand.visitAlarms (p : Presentation) : RecordCommand → Step Unit
  | .list paging => do
      let alarms ← ask (Client.listAlarms paging.wanted?)
      keep .alarms (fun a : Alarm => a.id) alarms
      print p (Alarm.listing.text p.format alarms)
  | .get id => do print p (Alarm.sheet.text p.format (← ask (Client.getAlarm id)))

def RecordCommand.visitEvents (p : Presentation) : RecordCommand → Step Unit
  | .list paging => do
      let events ← ask (Client.listEvents paging.wanted?)
      keep .events (fun e : Event => e.id) events
      print p (Event.listing.text p.format events)
  | .get id => do print p (Event.sheet.text p.format (← ask (Client.getEvent id)))

def RecordCommand.visitUsers (p : Presentation) : RecordCommand → Step Unit
  | .list paging => do
      let users ← ask (Client.listUsers paging.wanted?)
      keep .users (fun u : User => u.id) users
      print p (User.listing.text p.format users)
  | .get id => do print p (User.sheet.text p.format (← ask (Client.getUser id)))

def RecordCommand.visitSites (p : Presentation) : RecordCommand → Step Unit
  | .list paging => do
      let sites ← ask (Client.listSites paging.wanted?)
      keep .sites (fun s : Site => s.id) sites
      print p (Site.listing.text p.format sites)
  | .get id => do print p (Site.sheet.text p.format (← ask (Client.getSite id)))

/-- Lists devices in short, or gets one by its number or address. -/
def DeviceCommand.visit (p : Presentation) : DeviceCommand → Step Unit
  | .list filter paging => do
      let devices ← ask (Client.listDevicesShort filter paging.wanted?)
      keep .devices (fun d : DeviceSummary => d.id) devices
      print p (DeviceSummary.listing.text p.format devices)
  | .get id => do print p (Device.sheet.text p.format (← ask (Client.getDevice id)))
  | .inspect mac => do print p (Device.sheet.text p.format (← ask (Client.getDeviceByMac mac)))
  | .address mac => do
      let ip ← ask (Client.deviceIp mac)
      print p (DeviceAddress.sheet.text p.format ⟨mac, ip⟩)

/-- Does something with an access point. What takes it out of service has to be confirmed. -/
def AccessPointCommand.visit (p : Presentation) (yes : Bool) : AccessPointCommand → Step Unit
  | .locate mac off => do
      let reply ← ask (Client.setLocate mac !off)
      printReply p (if off then "locate off" else "locate on") reply
  | .locating mac => do
      let locating ← ask (Client.isLocating mac)
      print p (LocateState.sheet.text p.format ⟨mac, locating⟩)
  | .restart mac => do
      confirm yes "ap restart"
      printReply p "restart" (← ask (Client.restartAp mac))
  | .disable mac => do
      confirm yes "ap disable"
      printReply p "disable" (← ask (Client.disableAp mac true))
  | .enable mac => do printReply p "enable" (← ask (Client.disableAp mac false))
  | .rename mac name => do printReply p "rename" (← ask (Client.renameAp mac name))

def StationCommand.visit (p : Presentation) : StationCommand → Step Unit
  | .block mac => do printReply p "block" (← ask (Client.blockClient mac true))
  | .unblock mac => do printReply p "unblock" (← ask (Client.blockClient mac false))
  | .authorizeGuest mac limits => do
      printReply p "authorize-guest" (← ask (Client.authorizeGuest mac limits))
  | .unauthorizeGuest mac => do
      printReply p "unauthorize-guest" (← ask (Client.unauthorizeGuest mac))

/-- Sends a request as it is worded and writes the body of its answer as it comes, whatever the
format. Data that are not JSON are refused. -/
def RawCommand.visit (command : RawCommand) : Step Unit := do
  match command.data.map (Json.parseAs .any) with
  | some (.error reason) => throw (.json reason)
  | _ =>
      let request : Request :=
        { method := command.method, path := command.path, body := command.data.map Text.bytes }
      let visit ← get
      let ((bytes, outcome), client) := (Client.executeWriting request).run visit.client
      set { visit with client, output := visit.output ++ bytes }
      match outcome with
      | .ok _ => write (Text.bytes "\n")
      | .error cause => throw (.ofClient cause)

/-- What a command does on its visit. -/
def ControllerCommand.visit (p : Presentation) (yes : Bool) : ControllerCommand → Step Unit
  | .alarms command => command.visitAlarms p
  | .events command => command.visitEvents p
  | .devices command => command.visit p
  | .accessPoints command => command.visit p yes
  | .stations command => command.visit p
  | .users command => command.visitUsers p
  | .sites command => command.visitSites p
  | .raw command => command.visit

end NetConsole.Console
