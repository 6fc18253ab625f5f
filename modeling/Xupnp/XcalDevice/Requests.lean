import Xupnp.XcalDevice.Callbacks

/-!
# Actions and queries

A query repeats what the last action on its variable answered, if there was
one. `query_eq_action_iff` says in which states, after any requests, the two
callbacks of a variable give the same answer.
-/

namespace Xupnp.XcalDevice

open Xupnp.Library

/-! ## Runs -/

/-- What `main` does before the first request. -/
structure Startup where
  lib : XdeviceLibrary
  /-- `check_rfc ()` -/
  checkRfc : Bool
  certsFound : Bool
  contextCreated : Bool

namespace Startup

/-- `rfc_enabled` -/
def rfcEnabled (s : Startup) : Bool := s.checkRfc && s.certsFound

/-- The buffers `main` has filled itself. -/
def reads (s : Startup) : List (ReadThrough.Read Variable Value) :=
  [⟨.clientIP, s.lib.get .getGatewayIp⟩,
    ⟨.bcastMacAddress, s.lib.get .getBcastMacAddress⟩]
  ++ (if s.checkRfc then [⟨.accountId, s.lib.get .getAccountId⟩] else [])
  ++ if s.rfcEnabled && s.contextCreated then
      [⟨.receiverId, s.lib.get .getReceiverId⟩] else []

end Startup

inductive Request where
  | action (X : Variable)
  | query (X : Variable)
deriving DecidableEq

def Request.callback (rfcEnabled : Bool) : Request → Callback
  | .action X => actionInvoked rfcEnabled X
  | .query X => queryVariable X

/-- All that is read, from the start on. The library changes from request to
request. -/
def reads (s : Startup) (history : List (XdeviceLibrary × Request)) :
    List (ReadThrough.Read Variable Value) :=
  s.reads ++ history.map fun r => (r.2.callback s.rfcEnabled).read r.1

/-- The buffers after some requests. -/
def buffers (s : Startup) (history : List (XdeviceLibrary × Request)) :
    Buffers :=
  ReadThrough.run Variable.initial (reads s history)

/-! ## Same answers -/

/-- What the action or the query would have the library write, where not both
would. -/
def fetchedNow (rfcEnabled : Bool) (lib : XdeviceLibrary) (X : Variable) :
    Option Value :=
  (actionInvoked rfcEnabled X).fetched lib <|> (queryVariable X).fetched lib

/-- What the library has for the variable now, if it is asked and has anything,
is what it had when it was asked last. `IPSubNet` is always asked for. -/
def UpToDate (s : Startup) (history : List (XdeviceLibrary × Request))
    (lib : XdeviceLibrary) (X : Variable) : Prop :=
  X = .ipSubNet ∨ ∀ v ∈ fetchedNow s.rfcEnabled lib X,
    v = ReadThrough.lastFetched X X.initial (reads s history)

section Answers

variable {rfcEnabled : Bool} {lib : XdeviceLibrary} {X : Variable}

/-- No getter is called for an answer that is not taken from the buffer. -/
theorem fetchedNow_of_instead {v : Value}
    (h : (queryVariable X).instead lib = some v) :
    fetchedNow rfcEnabled lib X = none := by
  cases X with
  | playbackUrl =>
      have htune : lib.getTuneReady = false := by
        cases ht : lib.getTuneReady with
        | false => rfl
        | true =>
            have hnone : Callback.outOfTune lib = none := if_pos ht
            exact absurd (hnone.symm.trans h) (Option.some_ne_none v).symm
      have hgetter : Callback.getPlaybackUrlCb.getter lib = none := by
        show (if lib.getTuneReady = true then _ else _) = _
        rw [htune]
        rfl
      show ((Callback.getPlaybackUrlCb.getter lib).bind lib.get <|> none) = none
      rw [hgetter]
      rfl
  | _ => cases h

/-- But for `IPSubNet` at most one of the two callbacks calls a getter. -/
theorem fetched_exclusive (hX : X ≠ .ipSubNet) :
    (actionInvoked rfcEnabled X).fetched lib = none ∨
      (queryVariable X).fetched lib = none := by
  cases X with
  | ipSubNet => exact absurd rfl hX
  | timeZone =>
      show (Option.bind (if lib.getIsuseGliDiagEnabled = true then _ else _) _)
          = none ∨
        (Option.bind (if lib.getIsuseGliDiagEnabled = true then _ else _) _)
          = none
      cases lib.getIsuseGliDiagEnabled with
      | false => exact .inl rfl
      | true => exact .inr rfl
  | _ => exact .inr rfl

/-- On any buffers. -/
theorem answer_eq_iff (rfcEnabled : Bool) (lib : XdeviceLibrary)
    (X : Variable) (buffers : Buffers) :
    (queryVariable X).answer lib buffers =
        (actionInvoked rfcEnabled X).answer lib buffers ↔
      X = .ipSubNet ∨
        ∀ v ∈ fetchedNow rfcEnabled lib X, v = buffers X := by
  have hinstead := congrFun (instead_eq rfcEnabled X) lib
  cases h : (queryVariable X).instead lib with
  | some v =>
      rw [h] at hinstead
      rw [Callback.answer, Callback.answer, h, hinstead, fetchedNow_of_instead h]
      exact iff_of_true rfl (.inr fun w hw => absurd hw (Option.not_mem_none w))
  | none =>
      rw [h] at hinstead
      rw [answer_of_instead_none (buffer_queryVariable X) h,
        answer_of_instead_none (buffer_actionInvoked rfcEnabled X) hinstead]
      by_cases hX : X = .ipSubNet
      · subst hX
        exact iff_of_true rfl (.inl rfl)
      · rw [or_iff_right hX, fetchedNow, ← ReadThrough.getD_eq_iff]
        rcases fetched_exclusive hX with hnone | hnone
        · rw [hnone]
          exact Iff.rfl
        · rw [hnone]
          cases (actionInvoked rfcEnabled X).fetched lib with
          | none => exact Iff.rfl
          | some v => exact eq_comm

end Answers

/-- **Queries and actions.** After any requests, and whatever has become of the
library, the query of a variable answers as the action would exactly if what
the library has for it is what it had last time. -/
theorem query_eq_action_iff (s : Startup)
    (history : List (XdeviceLibrary × Request)) (lib : XdeviceLibrary)
    (X : Variable) :
    (queryVariable X).answer lib (buffers s history) =
        (actionInvoked s.rfcEnabled X).answer lib (buffers s history) ↔
      UpToDate s history lib X := by
  rw [answer_eq_iff, buffers, ReadThrough.run_apply]
  exact Iff.rfl

/-- An action brings its variable up to date, the time zone only with
`useGliDiag`. -/
theorem upToDate_after_action (s : Startup)
    (history : List (XdeviceLibrary × Request)) (lib : XdeviceLibrary)
    (X : Variable)
    (hX : X = .timeZone → lib.getIsuseGliDiagEnabled = true) :
    UpToDate s (history ++ [(lib, .action X)]) lib X := by
  by_cases hsub : X = .ipSubNet
  · exact .inl hsub
  · have hquery : (queryVariable X).fetched lib = none := by
      cases X with
      | ipSubNet => exact absurd rfl hsub
      | timeZone =>
          show Option.bind (if lib.getIsuseGliDiagEnabled = true then _ else _) _
            = none
          rw [if_pos (hX rfl)]
          rfl
      | _ => rfl
    apply Or.inr
    intro v hv
    rw [fetchedNow, hquery] at hv
    have hinto : ((actionInvoked s.rfcEnabled X).read lib).into X = some v := by
      rw [ReadThrough.Read.into]
      show (if (actionInvoked s.rfcEnabled X).buffer = X then _ else _) = _
      rw [if_pos (buffer_actionInvoked s.rfcEnabled X)]
      show (actionInvoked s.rfcEnabled X).fetched lib = some v
      simpa using hv
    have hreads : reads s (history ++ [(lib, .action X)]) =
        reads s history ++ [(actionInvoked s.rfcEnabled X).read lib] := by
      simp [reads, Request.callback]
    rw [hreads, ReadThrough.lastFetched_snoc, hinto]
    rfl

/-- A box of the video library that has been told of its time zone. -/
def easternBox : VideoLibrary where
  xcal := inTune.sysEventHandler .videoLibrary ⟨false, true, false, 0xFFFFFFFF⟩
    ⟨.timeZone, ⟨false, 2, .lit "EST05EDT,M3.2.0,M11.1.0"⟩, none⟩
  idConfig := ⟨true, none, 0xFFFFFFFF⟩
  gwyip := .lit "10.0.0.1"
  gwyipv6 := .empty
  gwystbip := .empty
  recvId := .lit "P0118"
  trmurl := .lit "ws://10.0.0.1:9988"
  devicetype := .lit "XG1"
  recvdevtype := .lit "XG1"
  buildversion := .lit "1"
  modelnumber := .lit "1"
  make := .lit "1"
  requirestrm := true
  allowGwy := true
  client := false
  hostMac := some (.lit "00:11:22:33:44:5a")
  bcastMac := some (.lit "00:11:22:33:44:5b")
  parseipv6prefix := false
  ipv6prefix := .empty
  dnsconfig := none
  devicename := none
  etchosts := none
  dataGatewayIPaddress := none
  accountId := none
  receiverId := .lit "P0118"

/-- Before the first action a query of its time zone finds nothing. -/
theorem query_timezone_unasked :
    let s : Startup := ⟨easternBox.library, false, false, false⟩
    let query := (queryVariable .timeZone).answer easternBox.library
      (buffers s [])
    let action := (actionInvoked s.rfcEnabled .timeZone).answer
      easternBox.library (buffers s [])
    query = .string .empty ∧ action = .string (.lit "US/Eastern") ∧
      query ≠ action := by
  decide +kernel

/-- After the action it finds what the action answered. -/
example :
    let s : Startup := ⟨easternBox.library, false, false, false⟩
    (queryVariable .timeZone).answer easternBox.library
        (buffers s [(easternBox.library, .action .timeZone)]) =
      .string (.lit "US/Eastern") := by
  decide +kernel

end Xupnp.XcalDevice
