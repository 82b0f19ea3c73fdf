import SpareSpace.KeyedTable
import SpareSpace.FallibleState

/-!
# The devices service

A row of `user_devices` says which push token a device of a user has.  A
registration looks for the row of the user and the device and writes the token
over it, or adds a row; a deletion names rows by their tokens.  Whole calls are
served one after another.
-/

namespace SpareSpace

open Fallible

structure UserDevice where
  id : Nat
  userId : Nat
  deviceId : String
  fcmToken : String
  platform : Option String
  deriving DecidableEq, Repr

structure UpdateDeviceDto where
  fcmToken : String
  deviceId : String
  platform : Option String
  deriving DecidableEq, Repr

/-- The devices, and the users that a row may name. -/
structure DeviceStore where
  users : List Nat
  devices : KeyedTable UserDevice UserDevice.id

abbrev DeviceCall := Fallible String DeviceStore

namespace DeviceStore

variable (store : DeviceStore)

/-- No devices. -/
def opening (users : List Nat) : DeviceStore :=
  ⟨users, .empty⟩

/-- `deviceRepository.findOne` of a user's device. -/
def findDevice (userId : Nat) (deviceId : String) : Option UserDevice :=
  store.devices.rows.find? fun device =>
    device.userId == userId && device.deviceId == deviceId

/-- `getUserTokens`. -/
def getUserTokens (userId : Nat) : List String :=
  (store.devices.rows.filter fun device => device.userId == userId).map
    UserDevice.fcmToken

end DeviceStore

namespace DevicesService

/-- The device found, with the values of a registration. -/
def updated (device : UserDevice) (dto : UpdateDeviceDto) : UserDevice :=
  { device with
    fcmToken := dto.fcmToken
    platform := (dto.platform.filter (· ≠ "")).or device.platform }

/-- The device that a registration creates. -/
def created (userId : Nat) (dto : UpdateDeviceDto) (id : Nat) : UserDevice :=
  ⟨id, userId, dto.deviceId, dto.fcmToken, dto.platform⟩

theorem created_id (userId : Nat) (dto : UpdateDeviceDto) (id : Nat) :
    (created userId dto id).id = id :=
  rfl

def upsertDevice (userId : Nat) (dto : UpdateDeviceDto) : DeviceCall Unit := do
  match ← reads fun store => .ok (store.findDevice userId dto.deviceId) with
  | some device =>
      updates fun store =>
        .ok ((), { store with devices := store.devices.save (updated device dto) })
  | none =>
      updates fun store =>
        if store.users.contains userId then
          .ok ((), { store with
            devices := store.devices.insert (created userId dto)
              (created_id userId dto) })
        else
          .error "Device registration failed: user_devices_user_id_fkey"

def deleteDevice (userId : Nat) (fcmToken : String) : DeviceCall Unit :=
  updates fun store => .ok ((), { store with
    devices := store.devices.deleteWhere fun device =>
      device.userId == userId && device.fcmToken == fcmToken })

def deleteTokens (fcmTokens : List String) : DeviceCall Unit :=
  updates fun store => .ok ((), { store with
    devices := store.devices.deleteWhere fun device =>
      fcmTokens.contains device.fcmToken })

end DevicesService

/-- The calls that write the table. -/
inductive DeviceRequest
  | upsertDevice (userId : Nat) (dto : UpdateDeviceDto)
  | deleteDevice (userId : Nat) (fcmToken : String)
  | deleteTokens (fcmTokens : List String)
  deriving DecidableEq

def DeviceRequest.serve : DeviceRequest → DeviceCall Unit
  | upsertDevice userId dto => DevicesService.upsertDevice userId dto
  | deleteDevice userId fcmToken => DevicesService.deleteDevice userId fcmToken
  | deleteTokens fcmTokens => DevicesService.deleteTokens fcmTokens

end SpareSpace
