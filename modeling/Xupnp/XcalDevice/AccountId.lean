import Xupnp.Library.CString

/-!
# Account ids on both sides (`GetAccountId`)

A broadband device lets a client into its MoCA network by comparing the account
id the client sends (`SAccountId`) with its own. Both sides read their id once,
into buffers of different sizes, and keep an empty one where reading fails:
`getAccountIdCb_decides_iff` says for which provisioned ids the comparison
decides rightly.
-/

namespace Xupnp.XcalDevice

open Xupnp.Library

/-! ## Reading the id -/

/-- `syscfg_get` into a buffer of this size: it stores the string as far as it
fits with its NUL. -/
def syscfgGet (stored : Option CStr) (outbufsz : ℕ) : Option CStr :=
  stored.map (CStr.takeBytes (outbufsz - 1))

def maxOutvalue : ℕ := 256

/-- `getAccountId` of the broadband library, with `char temp[24]`. -/
def getAccountId (stored : Option CStr) : Option CStr :=
  match syscfgGet stored 24 with
  | some temp => strcpyOk .safec maxOutvalue temp
  | none => none

/-- `accountId` of the device: where `main` cannot read one it stays as it
was. -/
def accountId (stored : Option CStr) : CStr := (getAccountId stored).getD .empty

def accountidSize : ℕ := 30

/-- Where a client reads its id, and what it finds there. -/
inductive AccountSource where
  /-- `BROADBAND` -/
  | syscfg (stored : Option CStr)
  /-- `ENABLE_RFC`: the request may fail, and `param.value` may be `NULL`. -/
  | rfc (value : Option (Option CStr))
  /-- A build without either. -/
  | unsupported

/-- The id the client was provisioned with, if it can be read. -/
def AccountSource.provisioned : AccountSource → Option CStr
  | .syscfg stored => stored
  | .rfc value => value.join
  | .unsupported => none

/-- `getAccountId` of `xdiscovery.c`. The `strncpy` into `accountId` leaves its
last byte alone, which is 0 from the start. -/
def clientGetAccountId : AccountSource → Option CStr
  | .syscfg stored =>
      (syscfgGet stored accountidSize).map
        (CStr.takeBytes (accountidSize - 1))
  | .rfc (some (some value)) => some (value.takeBytes (accountidSize - 1))
  | .rfc _ => none
  | .unsupported => none

/-- `accountId` of the client, which it sends as `SAccountId`, whether or not it
could be read. -/
def clientAccountId (source : AccountSource) : CStr :=
  (clientGetAccountId source).getD .empty

/-! ## The callback -/

/-- What is run of `moca_whitelist_ctl.sh`. -/
inductive MocaWhitelistCtl where
  | add (clientIpAddr : CStr)
  | del (clientIpAddr : CStr)
deriving DecidableEq

/-- What an action sets, and what it runs. -/
structure AccountReply where
  gAccountId : CStr
  command : MocaWhitelistCtl
deriving DecidableEq

/-- `get_account_id_cb`. `SAccountId` is `NULL` where the action lacks it. -/
def getAccountIdCb (accountId : CStr) (clientAccountId : Option CStr)
    (clientIpAddr : CStr) : AccountReply where
  gAccountId := accountId
  command :=
    if clientAccountId = some accountId then .add clientIpAddr
    else .del clientIpAddr

/-! ## The decision -/

/-- Both sides were provisioned with the same id, and it is not empty. -/
def SameAccount (stored : Option CStr) (source : AccountSource) : Prop :=
  stored = source.provisioned ∧ ∃ id ∈ stored, id ≠ .empty

/-- The decision is the right one. -/
def Decides (stored : Option CStr) (source : AccountSource)
    (clientIpAddr : CStr) : Prop :=
  let run := (getAccountIdCb (accountId stored)
    (some (clientAccountId source)) clientIpAddr).command
  (SameAccount stored source → run = .add clientIpAddr) ∧
    (¬ SameAccount stored source → run = .del clientIpAddr)

/-- Not both ids are empty or unreadable, and where the id of the device is too
long for it the client has neither this id nor its first 23 characters. -/
def Distinguished (stored : Option CStr) (source : AccountSource) : Prop :=
  let own := stored.getD .empty
  let client := source.provisioned.getD .empty
  ¬ (own = .empty ∧ client = .empty) ∧
    (23 < own.bytes.length → client ≠ own ∧ client ≠ own.takeBytes 23)

section Truncation

variable {n m : ℕ} {s t : CStr}

theorem takeBytes_eq_self (h : s.bytes.length ≤ n) : s.takeBytes n = s :=
  CStr.ext (List.take_of_length_le h)

theorem takeBytes_empty : CStr.empty.takeBytes n = .empty :=
  takeBytes_eq_self (Nat.zero_le n)

/-- A longer truncation that comes out as a shorter one has cut nothing. -/
theorem takeBytes_eq_takeBytes_iff (h : n < m) :
    t.takeBytes m = s.takeBytes n ↔ t = s.takeBytes n := by
  have hshort : (s.takeBytes n).bytes.length ≤ n := by
    rw [CStr.takeBytes_bytes, List.length_take]
    omega
  constructor
  · intro heq
    have hlen : (t.takeBytes m).bytes.length ≤ n := by
      rw [heq]
      exact hshort
    rw [CStr.takeBytes_bytes, List.length_take] at hlen
    rw [← heq, takeBytes_eq_self (by omega)]
  · intro heq
    rw [heq]
    exact takeBytes_eq_self (hshort.trans h.le)

end Truncation

theorem accountId_eq (stored : Option CStr) :
    accountId stored = (stored.getD .empty).takeBytes 23 := by
  cases stored with
  | none => exact takeBytes_empty.symm
  | some id =>
      have hfits : (id.takeBytes 23).bytes.length < maxOutvalue := by
        rw [CStr.takeBytes_bytes, List.length_take, maxOutvalue]
        omega
      show (strcpyOk .safec maxOutvalue (id.takeBytes 23)).getD .empty = _
      rw [strcpyOk_of_lt hfits]
      rfl

/-- Every way to read keeps the first 29 characters. -/
theorem clientGetAccountId_eq (source : AccountSource) :
    clientGetAccountId source =
      source.provisioned.map (CStr.takeBytes 29) := by
  cases source with
  | syscfg stored =>
      cases stored with
      | none => rfl
      | some id =>
          show some ((id.takeBytes 29).takeBytes 29) = some (id.takeBytes 29)
          rw [takeBytes_eq_self]
          rw [CStr.takeBytes_bytes, List.length_take]
          omega
  | rfc value => rcases value with _ | _ | id <;> rfl
  | unsupported => rfl

theorem clientAccountId_eq (source : AccountSource) :
    clientAccountId source =
      (source.provisioned.getD .empty).takeBytes 29 := by
  rw [clientAccountId, clientGetAccountId_eq]
  cases source.provisioned with
  | none => exact takeBytes_empty.symm
  | some id => rfl

/-- The device runs `add` exactly for the first 23 characters of its own id. -/
theorem getAccountIdCb_add_iff (stored : Option CStr)
    (source : AccountSource) (ip : CStr) :
    (getAccountIdCb (accountId stored) (some (clientAccountId source))
        ip).command = .add ip ↔
      source.provisioned.getD .empty =
        (stored.getD .empty).takeBytes 23 := by
  have hsent : some (clientAccountId source) = some (accountId stored) ↔
      source.provisioned.getD .empty =
        (stored.getD .empty).takeBytes 23 := by
    rw [Option.some_inj, accountId_eq, clientAccountId_eq]
    exact takeBytes_eq_takeBytes_iff (by omega)
  rw [← hsent, getAccountIdCb]
  dsimp only
  split <;> simp_all

theorem sameAccount_iff (stored : Option CStr) (source : AccountSource) :
    SameAccount stored source ↔
      source.provisioned.getD .empty = stored.getD .empty ∧
        stored.getD .empty ≠ .empty := by
  unfold SameAccount
  cases stored with
  | none => simp
  | some own =>
      cases hp : source.provisioned with
      | none => simp [eq_comm]
      | some client => simp [eq_comm]

/-- On the ids themselves: comparing with the first 23 characters is comparing
with the id. -/
theorem truncated_eq_iff (own client : CStr) :
    (client = own.takeBytes 23 ↔ client = own ∧ own ≠ .empty) ↔
      ¬ (own = .empty ∧ client = .empty) ∧
        (23 < own.bytes.length → client ≠ own ∧ client ≠ own.takeBytes 23) := by
  by_cases hlen : own.bytes.length ≤ 23
  · rw [takeBytes_eq_self hlen]
    constructor
    · intro h
      refine ⟨?_, fun hlong => absurd hlen (not_le.mpr hlong)⟩
      rintro ⟨rfl, rfl⟩
      exact (h.mp rfl).2 rfl
    · rintro ⟨hempty, -⟩
      refine ⟨fun heq => ⟨heq, ?_⟩, fun h => h.1⟩
      rintro rfl
      exact hempty ⟨rfl, heq⟩
  · have hne : own ≠ .empty := by
      rintro rfl
      exact hlen (Nat.zero_le 23)
    -- A long id differs from its first 23 characters.
    have hcut : own ≠ own.takeBytes 23 := by
      intro heq
      have := congrArg (fun s => s.bytes.length) heq
      simp only [CStr.takeBytes_bytes, List.length_take] at this
      omega
    constructor
    · intro h
      have hclient : client ≠ own.takeBytes 23 := by
        intro heq
        exact hcut ((h.mp heq).1.symm.trans heq)
      refine ⟨fun hempty => hne hempty.1, fun _ => ⟨?_, hclient⟩⟩
      rintro rfl
      exact hclient (h.mpr ⟨rfl, hne⟩)
    · rintro ⟨-, hlong⟩
      obtain ⟨hown, hfirst⟩ := hlong (not_le.mp hlen)
      exact iff_of_false hfirst fun h => hown h.1

/-- **Who is let in.** The device decides rightly exactly if the two ids are
not both empty or unreadable, and the device's own one, where it is longer than
23 characters, is neither the client's nor starts with the client's as its
first 23 characters. -/
theorem getAccountIdCb_decides_iff (stored : Option CStr)
    (source : AccountSource) (ip : CStr) :
    Decides stored source ip ↔ Distinguished stored source := by
  have hadd := getAccountIdCb_add_iff stored source ip
  have hdel : (getAccountIdCb (accountId stored)
      (some (clientAccountId source)) ip).command = .del ip ↔
        ¬ source.provisioned.getD .empty =
          (stored.getD .empty).takeBytes 23 := by
    rw [← hadd, getAccountIdCb]
    dsimp only
    split <;> simp
  unfold Decides Distinguished
  dsimp only
  rw [hadd, hdel, sameAccount_iff, ← truncated_eq_iff]
  tauto

/-- Two sides that were provisioned with the same id of 24 characters: the
device removes the client. -/
theorem getAccountIdCb_long_id :
    ¬ Decides (some (.lit "123456789012345678901234"))
        (.syscfg (some (.lit "123456789012345678901234")))
        (.lit "10.0.0.2") := by
  rintro ⟨hadd, -⟩
  have hrun := hadd ⟨rfl, _, rfl, by decide⟩
  revert hrun
  decide

/-- Neither side can read its id: the device lets the client in. -/
example : (getAccountIdCb (accountId none) (some (clientAccountId (.rfc none)))
    (.lit "10.0.0.2")).command = .add (.lit "10.0.0.2") := by decide

end Xupnp.XcalDevice
