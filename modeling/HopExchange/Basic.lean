import Mathlib.Data.List.Basic

/-!
# HopExchange — Basic

The values the exchange passes between its parts, as the Go source declares them:
content and peer identifiers, of which the code only ever compares two; the `Request` a
dispatcher writes to a provider and the `PRecord` it reports back (package `exchange`);
the options of a `Dispatch`; regions (package `supply`); the part of a data-transfer
channel state that the subscribers of this repository read; and how a handler of the node
stops.

Fields no modelled function reads are left out: `DispatchOptions.BackoffMin` only sets
how long a timer runs, and a timer here may fire at any moment.
-/

namespace HopExchange

/-- `cid.Cid`. -/
structure Cid where
  hash : Nat
  deriving DecidableEq, Repr

/-- `peer.ID`. -/
structure PeerId where
  id : Nat
  deriving DecidableEq, Repr

/-- `address.Address`, a Filecoin account. -/
structure Address where
  id : Nat
  deriving DecidableEq, Repr

/-- `supply.Region`: a name and a `uint64` code. -/
structure Region where
  name : String
  code : UInt64
  deriving DecidableEq, Repr

/-- `exchange.Request`: the content to pull. -/
structure Request where
  payloadCID : Cid
  size : UInt64
  deriving DecidableEq, Repr

/-- `exchange.PRecord`: a provider and the content it stores. -/
structure PRecord where
  provider : PeerId
  payloadCID : Cid
  deriving DecidableEq, Repr

/-- `exchange.DispatchOptions`, less `BackoffMin`.  `RF` is a Go `int` that `make` rejects
when negative, so it is a `Nat` here; `BackoffAttemps` keeps its sign. -/
structure DispatchOptions where
  backoffAttemps : Int
  rf : Nat
  deriving DecidableEq, Repr

/-- `DefaultDispatchOptions`. -/
def defaultDispatchOptions : DispatchOptions := ⟨4, 7⟩

/-- A data-transfer voucher: a `Request` (type `DispatchRequestVoucher`) or a voucher of
another registered type. -/
inductive Voucher where
  | request (r : Request)
  | other (type : String)
  deriving DecidableEq, Repr

/-- The selectors the node builds: `sel.All()`, `sel.Key(k)` and `sel.Entries()`. -/
inductive Selector where
  | all
  | key (k : String)
  | entries
  deriving DecidableEq, Repr

/-- `datatransfer.Status`, up to the one value the subscribers compare with. -/
inductive Status where
  | requested
  | ongoing
  | completed
  | failed
  | cancelled
  deriving DecidableEq, Repr

/-- `datatransfer.EventCode`, up to the one value the subscribers compare with. -/
inductive EventCode where
  | progress
  | error
  | complete
  | other
  deriving DecidableEq, Repr

/-- The accessors of `datatransfer.ChannelState` that the subscribers call. -/
structure ChannelState where
  status : Status
  baseCID : Cid
  recipient : PeerId
  deriving DecidableEq, Repr

/-- A Go runtime panic. -/
inductive Fault where
  /-- A slice indexed out of range. -/
  | indexOutOfRange
  /-- A field read through a nil pointer. -/
  | nilDereference
  /-- A type assertion on an interface value that does not hold the type. -/
  | typeAssertion
  deriving DecidableEq, Repr

/-- How a handler stops: it returns, it panics, or it waits forever on a held lock. -/
inductive Ending where
  | ret
  | fault (f : Fault)
  | blocked
  deriving DecidableEq, Repr

/-- Go's conversion `int64(x)` of a `uint64`: two's complement. -/
def toInt64 (x : UInt64) : Int :=
  if x.toNat < UInt64.size / 2 then x.toNat else x.toNat - UInt64.size

end HopExchange
