import Xupnp.Discovery.GatewayCount

/-!
# Fetching the document (`GetXUPNPDeviceInfo`)

Other processes are told of a new document together with the length they need
for it (`notifyXUPnPDataUpdateEvent`), and fetch it into a buffer of their own.
The length told counts the terminating NUL, the check before the copy does
not, and two of the three builds drop the result of the copy:
`deviceInfo_run_iff` says which requests are answered as they should be.
-/

namespace Xupnp.Discovery

open Xupnp.Library

/-! ## The call -/

/-- What an IARM call returns. -/
inductive IarmResult where
  | success
  | invalidState
deriving DecidableEq

/-- `GetXUPNPDeviceInfo`: the result, and the bytes it writes from the start of
the buffer on. The copy is one byte longer than the length checked. -/
def getXUPNPDeviceInfo (outputcontents : CStr) (length : ℕ) :
    IarmResult × List UInt8 :=
  if outputcontents.bytes.length ≤ length then
    (.success,
      CStr.padTo (outputcontents.bytes.length + 1) outputcontents.bytes)
  else (.invalidState, [])

/-- A request for the document, with room for `n` bytes. -/
inductive Request (n : ℕ) where
  /-- `USE_XUPNP_IARM`: the caller's buffer is `param->pBuffer`. -/
  | uiMgr (pBuffer : CStr.Buffer n)
  /-- `USE_DBUS`: it is behind the parameters. -/
  | dbus (behindParam : CStr.Buffer n)
  /-- Shared memory: it is what `IARM_Malloc` gives, if it succeeds. -/
  | shared (malloc : Option (CStr.Buffer n))

/-- What a request leads to: the result, what has been written from the start
of the buffer on, and the buffer then. -/
structure Reply where
  result : IarmResult
  written : List UInt8
  buffer : Option (List UInt8)

/-- The buffer once these bytes have been written from its start on. -/
def overwrite {n : ℕ} (b : CStr.Buffer n) (written : List UInt8) :
    List UInt8 := (written ++ b.1.drop written.length).take n

/-- `_GetXUPNPDeviceInfo`. Only the first build passes the result on. -/
def getXUPNPDeviceInfoCall (outputcontents : CStr) {n : ℕ} :
    Request n → Reply
  | .uiMgr b =>
      let (ret, written) := getXUPNPDeviceInfo outputcontents n
      ⟨ret, written, some (overwrite b written)⟩
  | .dbus b =>
      let (_, written) := getXUPNPDeviceInfo outputcontents n
      ⟨.success, written, some (overwrite b written)⟩
  | .shared (some b) =>
      let (_, written) := getXUPNPDeviceInfo outputcontents n
      ⟨.success, written, some (overwrite b written)⟩
  | .shared none => ⟨.success, [], none⟩

/-- The buffer holds the document with its terminating NUL. -/
def Reply.holds (r : Reply) (outputcontents : CStr) : Bool :=
  r.buffer.any fun l => (outputcontents.bytes ++ [0]).isPrefixOf l

/-! ## Notifications -/

/-- The length `notifyXUPnPDataUpdateEvent` tells. -/
def deviceInfoLength (s : XState) : ℕ := s.outputcontents.bytes.length + 1

/-- What changes the document or tells of it: the calls that change or publish
the list, and another process that asks to be told. -/
inductive IarmEvent where
  | call (c : ListCall)
  | dataRequest

/-- Does the call publish? -/
def publishes (cfg : Settings) (s : XState) : ListCall → Bool
  | .dev (.update _ _) => true
  | .dev (.delete _ _) => false
  | .dev (.publish _) => true
  | .lastChange _ udn v value => announces cfg udn v value s

/-- One event. Beside the state stands the length last told. -/
def iarmStep (cfg : Settings) :
    XState × Option ℕ → IarmEvent → Option (XState × Option ℕ)
  | (s, told), .call c =>
      (listCall cfg s c).map fun s' =>
        (s', if publishes cfg s c then some (deviceInfoLength s') else told)
  | (s, _), .dataRequest => some (s, some (deviceInfoLength s))

/-! ## Requests -/

/-- What is expected of a request: it stays within the buffer, it reports
success exactly if the buffer then holds the document, and with the length last
told it succeeds. -/
def Fetches (x : XState × Option ℕ) {n : ℕ} (r : Request n) : Prop :=
  let reply := getXUPNPDeviceInfoCall x.1.outputcontents r
  reply.written.length ≤ n ∧
    (reply.result = .success ↔ reply.holds x.1.outputcontents = true) ∧
    (x.2 = some n → reply.result = .success)

/-- The request leaves room for the NUL. In the first build a document that is
longer than the buffer is refused, in the others nothing may be refused. -/
def Fits (s : XState) {n : ℕ} : Request n → Prop
  | .uiMgr _ => n ≠ s.outputcontents.bytes.length
  | .dbus _ => s.outputcontents.bytes.length < n
  | .shared malloc =>
      malloc.isSome ∧ s.outputcontents.bytes.length < n

section Request

variable {doc : CStr} {n : ℕ}

/-- A copy that fits fills the start of the buffer with the document. -/
theorem overwrite_holds (b : CStr.Buffer n) (h : doc.bytes.length < n) :
    (doc.bytes ++ [0]).isPrefixOf (overwrite b
      (CStr.padTo (doc.bytes.length + 1) doc.bytes)) = true := by
  have hpad : CStr.padTo (doc.bytes.length + 1) doc.bytes =
      doc.bytes ++ [0] := by
    simp [CStr.padTo]
  rw [List.isPrefixOf_iff_prefix, overwrite, hpad, List.take_append]
  rw [List.take_of_length_le (by simp; omega)]
  exact List.prefix_append _ _

/-- A buffer that is too small cannot hold it. -/
theorem not_holds_of_le (b : CStr.Buffer n) (written : List UInt8)
    (h : n ≤ doc.bytes.length) :
    (doc.bytes ++ [0]).isPrefixOf (overwrite b written) = false := by
  apply Bool.eq_false_iff.mpr
  intro hpre
  have hlen := (List.isPrefixOf_iff_prefix.mp hpre).length_le
  rw [overwrite, List.length_take, List.length_append,
    List.length_singleton] at hlen
  omega

/-- What the copy writes, by the lengths. -/
theorem getXUPNPDeviceInfo_cases (doc : CStr) (n : ℕ) :
    (doc.bytes.length ≤ n ∧ getXUPNPDeviceInfo doc n =
        (.success, CStr.padTo (doc.bytes.length + 1) doc.bytes)) ∨
      (n < doc.bytes.length ∧
        getXUPNPDeviceInfo doc n = (.invalidState, [])) := by
  unfold getXUPNPDeviceInfo
  by_cases h : doc.bytes.length ≤ n
  · exact Or.inl ⟨h, if_pos h⟩
  · exact Or.inr ⟨not_le.mp h, if_neg h⟩

end Request

section Fetch

variable {x : XState × Option ℕ} {n : ℕ}

/-- The first build: all is well unless the buffer is one byte short. -/
theorem fetches_uiMgr_iff (hx : ∀ m, x.2 = some m → m = deviceInfoLength x.1)
    (b : CStr.Buffer n) :
    Fetches x (.uiMgr b) ↔ n ≠ x.1.outputcontents.bytes.length := by
  unfold Fetches getXUPNPDeviceInfoCall Reply.holds
  rcases getXUPNPDeviceInfo_cases x.1.outputcontents n with
    ⟨hle, heq⟩ | ⟨hlt, heq⟩
  · rw [heq]
    dsimp only
    rw [CStr.length_padTo, Option.any_some]
    constructor
    · rintro ⟨hroom, -⟩ rfl
      omega
    · intro hne
      have hlt : x.1.outputcontents.bytes.length < n := by omega
      exact ⟨hlt, iff_of_true rfl (overwrite_holds b hlt), fun _ => rfl⟩
  · rw [heq]
    dsimp only
    rw [Option.any_some, not_holds_of_le b [] hlt.le]
    refine iff_of_true ⟨Nat.zero_le n, by simp, fun htold => ?_⟩ hlt.ne
    have hn := hx n htold
    rw [deviceInfoLength] at hn
    omega

/-- The other builds: the call reports success, so the document has to fit. -/
theorem fetches_bus_iff (b : CStr.Buffer n) (r : Request n)
    (hr : ∀ doc, getXUPNPDeviceInfoCall doc r =
      ⟨.success, (getXUPNPDeviceInfo doc n).2,
        some (overwrite b (getXUPNPDeviceInfo doc n).2)⟩) :
    Fetches x r ↔ x.1.outputcontents.bytes.length < n := by
  unfold Fetches Reply.holds
  rw [hr]
  dsimp only
  rw [Option.any_some]
  rcases getXUPNPDeviceInfo_cases x.1.outputcontents n with
    ⟨hle, heq⟩ | ⟨hlt, heq⟩
  · rw [heq]
    dsimp only
    rw [CStr.length_padTo]
    constructor
    · rintro ⟨hroom, -⟩
      exact hroom
    · intro hlt
      exact ⟨hlt, iff_of_true rfl (overwrite_holds b hlt), fun _ => rfl⟩
  · rw [heq]
    dsimp only
    rw [not_holds_of_le b [] hlt.le]
    constructor
    · rintro ⟨-, hholds, -⟩
      cases hholds.mp rfl
    · intro h
      omega

/-- **One request**, in a state in which the length last told is the right
one. -/
theorem fetches_iff (hx : ∀ m, x.2 = some m → m = deviceInfoLength x.1)
    (r : Request n) : Fetches x r ↔ Fits x.1 r := by
  cases r with
  | uiMgr b => exact fetches_uiMgr_iff hx b
  | dbus b => exact fetches_bus_iff b _ fun _ => rfl
  | shared malloc =>
      cases malloc with
      | none =>
          apply iff_of_false
          · rintro ⟨-, hholds, -⟩
            cases hholds.mp rfl
          · rintro ⟨hsome, -⟩
            cases hsome
      | some b =>
          rw [fetches_bus_iff b _ fun _ => rfl]
          exact ⟨fun h => ⟨rfl, h⟩, fun h => h.2⟩

end Fetch

/-! ## Runs -/

section Runs

variable {cfg : Settings}

/-- A call that does not publish leaves the document as it is. -/
theorem outputcontents_of_not_publishes {s s' : XState} {c : ListCall}
    (h : listCall cfg s c = some s') (hp : publishes cfg s c = false) :
    s'.outputcontents = s.outputcontents := by
  cases c with
  | dev op =>
      obtain rfl := Option.some.inj h
      cases op with
      | update io d => cases hp
      | delete io sno =>
          show (deleteGwyitem cfg io sno s).1.outputcontents = _
          unfold deleteGwyitem
          split <;> rfl
      | publish io => cases hp
  | lastChange io udn v value =>
      obtain ⟨s₁, -, hdoc, -, hcases⟩ :=
        onLastChange_cases cfg io udn v value s
      rcases hcases with ⟨hann, -⟩ | ⟨-, hquiet⟩
      · exact absurd (hann.symm.trans hp) (by simp)
      · obtain rfl := hquiet s' h
        exact hdoc

/-- The length last told stays the one of the document. -/
theorem iarmStep_told {x y : XState × Option ℕ} {e : IarmEvent}
    (hx : ∀ m, x.2 = some m → m = deviceInfoLength x.1)
    (h : iarmStep cfg x e = some y) :
    ∀ m, y.2 = some m → m = deviceInfoLength y.1 := by
  cases e with
  | dataRequest =>
      obtain rfl := Option.some.inj h
      intro m hm
      exact (Option.some.inj hm).symm
  | call c =>
      obtain ⟨s', hs', rfl⟩ := Option.map_eq_some_iff.mp h
      intro m hm
      cases hp : publishes cfg x.1 c with
      | true =>
          rw [hp] at hm
          exact (Option.some.inj hm).symm
      | false =>
          rw [hp] at hm
          rw [deviceInfoLength, outputcontents_of_not_publishes hs' hp]
          exact hx m hm

/-- **Fetching the document.** In every state of every run, a request is
answered as expected exactly when it leaves room for the document and its
terminating NUL; in the first build, which passes an error on, also when it
does not even leave room for the document. -/
theorem deviceInfo_run_iff (cfg : Settings) (serialNumber : Option CStr)
    (es : List IarmEvent) :
    EveryState (iarmStep cfg)
      (fun x => ∀ (n : ℕ) (r : Request n), Fetches x r ↔ Fits x.1 r)
      (startState serialNumber, none) es := by
  intro pre x _ hrun n r
  refine fetches_iff ?_ r
  refine runFrom_invariant'
    (I := fun x => ∀ m, x.2 = some m → m = deviceInfoLength x.1)
    (fun _ _ _ hx hstep => iarmStep_told hx hstep) ?_ hrun
  intro m hm
  cases hm

/-- A buffer as long as the document, without its NUL: the call reports success
and writes one byte too many. -/
theorem getXUPNPDeviceInfo_overruns :
    ∃ x, runFrom (iarmStep broadbandSettings) (startState none, none)
        [.call (.dev (.publish quietIo))] = some x ∧
      ¬ Fetches x (.uiMgr (CStr.strncpy 28 [])) ∧
      (getXUPNPDeviceInfoCall x.1.outputcontents
        (.uiMgr (CStr.strncpy 28 []))).written.length = 29 := by
  refine ⟨_, rfl, fun h => ?_, by decide⟩
  have hroom := h.1
  revert hroom
  decide

end Runs

end Xupnp.Discovery
