import Mathlib.Data.List.Basic

/-! # AGPS subscribers and the notifications they receive

A subscriber is one client of a network interface: the BIT daemon, a modem ATL
connection, a Wi-Fi requester, or a SUPL-ES data call. The four classes share
an identifier and differ in how they compare themselves with another
subscriber, in what they tell their client, and in whether they stay listed
until the interface confirms that it is closed.
-/

namespace Serrano.Agps

/-- NIF resource events, and the status a notification carries. -/
inductive AgpsRsrcStatus
  | rsrcSubscribe
  | rsrcUnsubscribe
  | rsrcGranted
  | rsrcReleased
  | rsrcDenied
  | rsrcStatusMax
  deriving DecidableEq, Repr

/-- Addressing of a notification without a receiver; `none` is group -1. -/
inductive BroadcastGroup
  | none
  | all
  | active
  | inactive
  deriving DecidableEq, Repr

/-- `INADDR_NONE`: a BIT request for an IPv6 address. -/
def inaddrNone : UInt32 := 0xffffffff

/-- Room for an SSID or a password, terminator included. -/
def ssidBufSize : Nat := 32 + 1

/-- `strlcpy` into a buffer of `SSID_BUF_SIZE`, the terminator left implicit. -/
def copySsid (source : List UInt8) : List UInt8 := source.take (ssidBufSize - 1)

/-- `0 == strncmp(a, b, n)` on buffers of `n` bytes: the comparison ends with
the first difference or the first common terminator. -/
def strncmpEq : List UInt8 → List UInt8 → Bool
  | a :: as, b :: bs => a == b && (a == 0 || strncmpEq as bs)
  | _, _ => true

/-- The class of a subscriber with the members only that class has. The SSID
and the password are what `new char[]` buffers hold, `none` for `NULL`. -/
inductive SubscriberKind
  | bit
  | atl (mBackwardCompatibleMode : Bool)
  | wifi (mSSID mPassword : Option (List UInt8))
  | ds
  deriving DecidableEq, Repr

/-- A subscriber object. `mIPv6Addr` is the member of `BITSubscriber`; for the
other classes it stands for the bytes their objects hold at its offset, which
`BITSubscriber::equals` reads without knowing the class of its argument.
`mIsInactive` is a member of `WIFISubscriber` and `DSSubscriber`. -/
structure Subscriber where
  kind : SubscriberKind
  ID : UInt32
  mIPv6Addr : Vector UInt8 16
  mIsInactive : Bool
  deriving DecidableEq, Repr

/-- `uninitialized` is what the array holds when no address is given. -/
def bitSubscriber (ipv4 : UInt32) (ipv6 : Option (Vector UInt8 16))
    (uninitialized : Vector UInt8 16) : Subscriber where
  kind := .bit
  ID := ipv4
  mIPv6Addr := ipv6.getD (uninitialized.set 0 0)
  mIsInactive := false

def atlSubscriber (id : UInt32) (compatibleMode : Bool) (beyond : Vector UInt8 16) :
    Subscriber where
  kind := .atl compatibleMode
  ID := id
  mIPv6Addr := beyond
  mIsInactive := false

def wifiSubscriber (ssid password : Option (List UInt8)) (senderId : UInt32)
    (beyond : Vector UInt8 16) : Subscriber where
  kind := .wifi (ssid.map copySsid) (password.map copySsid)
  ID := senderId
  mIPv6Addr := beyond
  mIsInactive := false

def dsSubscriber (id : UInt32) (beyond : Vector UInt8 16) : Subscriber where
  kind := .ds
  ID := id
  mIPv6Addr := beyond
  mIsInactive := false

namespace Subscriber

/-- The virtual `equals`, dispatched on the receiver. -/
def equals (self s : Subscriber) : Bool :=
  match self.kind with
  | .bit => self.ID == s.ID &&
      (inaddrNone != self.ID || strncmpEq self.mIPv6Addr.toList s.mIPv6Addr.toList)
  | .atl _ | .wifi _ _ | .ds => self.ID == s.ID

def waitForCloseComplete (self : Subscriber) : Bool :=
  match self.kind with
  | .bit | .atl _ => false
  | .wifi _ _ | .ds => true

def isInactive (self : Subscriber) : Bool :=
  match self.kind with
  | .bit | .atl _ => false
  | .wifi _ _ | .ds => self.mIsInactive

/-- The member update of `setInactive`; what a `DSSubscriber` announces besides
is in the state machine. -/
def setInactive (self : Subscriber) : Subscriber :=
  match self.kind with
  | .bit | .atl _ => self
  | .wifi _ _ | .ds => { self with mIsInactive := true }

/-- `clone`. What lies behind the members of the new object is taken to be what
lies behind those of the original. -/
def clone (self : Subscriber) : Subscriber :=
  match self.kind with
  | .bit => bitSubscriber self.ID (some self.mIPv6Addr) self.mIPv6Addr
  | .atl compatibleMode => atlSubscriber self.ID compatibleMode self.mIPv6Addr
  | .wifi ssid password => wifiSubscriber ssid password self.ID self.mIPv6Addr
  | .ds => dsSubscriber self.ID self.mIPv6Addr

/-! ## What the classes have in common -/

theorem strncmpEq_self (bytes : List UInt8) : strncmpEq bytes bytes = true := by
  induction bytes with
  | nil => rfl
  | cons byte rest ih => simp [strncmpEq, ih]

@[simp] theorem equals_self (s : Subscriber) : s.equals s = true := by
  unfold equals
  cases s.kind <;> simp [strncmpEq_self]

/-- Equality reads neither the inactive flag of the receiver nor that of the
argument. -/
@[simp] theorem equals_setInactive_left (self s : Subscriber) :
    self.setInactive.equals s = self.equals s := by
  unfold setInactive equals
  cases hkind : self.kind <;> simp [hkind]

@[simp] theorem equals_setInactive_right (self s : Subscriber) :
    self.equals s.setInactive = self.equals s := by
  unfold setInactive equals
  cases s.kind <;> rfl

@[simp] theorem equals_clone_left (self s : Subscriber) :
    self.clone.equals s = self.equals s := by
  unfold clone equals
  cases hkind : self.kind <;>
    simp [bitSubscriber, atlSubscriber, wifiSubscriber, dsSubscriber]

@[simp] theorem equals_clone_right (self s : Subscriber) :
    self.equals s.clone = self.equals s := by
  unfold clone equals
  cases s.kind <;> simp [bitSubscriber, atlSubscriber, wifiSubscriber, dsSubscriber]

/-- A clone starts active, whatever the original is. -/
@[simp] theorem isInactive_clone (s : Subscriber) : s.clone.isInactive = false := by
  unfold clone isInactive
  cases s.kind <;> rfl

@[simp] theorem isInactive_setInactive (s : Subscriber) :
    s.setInactive.isInactive = s.waitForCloseComplete := by
  unfold setInactive isInactive waitForCloseComplete
  cases hkind : s.kind <;> simp [hkind]

/-- Only subscribers that wait for the close are ever inactive. -/
theorem waitForCloseComplete_of_isInactive {s : Subscriber} (hinactive : s.isInactive = true) :
    s.waitForCloseComplete = true := by
  unfold isInactive at hinactive
  unfold waitForCloseComplete
  cases hkind : s.kind <;> simp_all

theorem ID_eq_of_equals {self s : Subscriber} (hequals : self.equals s = true) :
    self.ID = s.ID := by
  unfold equals at hequals
  cases hkind : self.kind <;> simp_all

theorem strncmpEq_comm (first second : List UInt8) :
    strncmpEq first second = strncmpEq second first := by
  induction first generalizing second with
  | nil => cases second <;> rfl
  | cons a as ih =>
      cases second with
      | nil => rfl
      | cons b bs =>
          rw [Bool.eq_iff_iff]
          by_cases hbyte : a = b
          · subst hbyte
            simp [strncmpEq, ih]
          · simp [strncmpEq, hbyte, Ne.symm hbyte]

/-- Equality is symmetric, except that a BIT subscriber for an IPv6 address
may differ from a subscriber of another class whose identifier it shares. -/
theorem equals_comm {self s : Subscriber}
    (hclass : self.kind = .bit ∧ s.kind = .bit ∨ self.ID ≠ inaddrNone ∨
      self.kind ≠ .bit ∧ s.kind ≠ .bit) :
    self.equals s = s.equals self := by
  unfold equals
  rw [Bool.eq_iff_iff]
  by_cases hid : self.ID = s.ID
  · rcases hclass with ⟨hself, hs⟩ | hnone | ⟨hself, hs⟩
    · simp [hself, hs, hid, strncmpEq_comm self.mIPv6Addr.toList]
    · have hnone' : inaddrNone ≠ s.ID := Ne.symm (hid ▸ hnone)
      cases self.kind <;> cases s.kind <;> simp [hid, hnone']
    · cases hkind : self.kind <;> cases hkind' : s.kind <;> simp_all
  · cases self.kind <;> cases s.kind <;> simp [hid, Ne.symm hid]

end Subscriber

/-- The information bundle handed to subscribers. -/
structure Notification where
  rcver : Option Subscriber
  groupID : BroadcastGroup
  rsrcStatus : AgpsRsrcStatus
  postNotifyDelete : Bool

namespace Notification

/-- To everyone in a group. -/
def broadcast (groupID : BroadcastGroup) (status : AgpsRsrcStatus := .rsrcStatusMax)
    (deleteAfterwards : Bool := false) : Notification :=
  ⟨none, groupID, status, deleteAfterwards⟩

/-- To one subscriber. -/
def receiver (subscriber : Subscriber) (status : AgpsRsrcStatus := .rsrcStatusMax)
    (deleteAfterwards : Bool := false) : Notification :=
  ⟨some subscriber, .none, status, deleteAfterwards⟩

end Notification

/-- `Subscriber::forMe`: a receiver is compared by value, a group by activity. -/
def Subscriber.forMe (self : Subscriber) (notification : Notification) : Bool :=
  match notification.rcver with
  | some rcver => self.equals rcver
  | none => notification.groupID == .all ||
      notification.groupID == .active && !self.isInactive ||
      notification.groupID == .inactive && self.isInactive

@[simp] theorem Subscriber.forMe_receiver (self s : Subscriber) (status : AgpsRsrcStatus)
    (delete : Bool) : self.forMe (.receiver s status delete) = self.equals s := rfl

@[simp] theorem Subscriber.forMe_all (self : Subscriber) (status : AgpsRsrcStatus)
    (delete : Bool) : self.forMe (.broadcast .all status delete) = true := rfl

@[simp] theorem Subscriber.forMe_active (self : Subscriber) (status : AgpsRsrcStatus)
    (delete : Bool) : self.forMe (.broadcast .active status delete) = !self.isInactive := by
  rw [Bool.eq_iff_iff]
  simp [forMe, Notification.broadcast]

@[simp] theorem Subscriber.forMe_inactive (self : Subscriber) (status : AgpsRsrcStatus)
    (delete : Bool) : self.forMe (.broadcast .inactive status delete) = self.isInactive := by
  rw [Bool.eq_iff_iff]
  simp [forMe, Notification.broadcast]

end Serrano.Agps
