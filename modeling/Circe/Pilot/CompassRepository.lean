import Circe.Pilot.Compass
import Mathlib.Data.List.Nodup

/-!
# Pilot/CompassRepository — the compasses in memory, indexed three ways

An element carries copies of what its compass reports — address, key and last access time — and the
container's indices are over the copies.  `CompassRepository.Inv` says that the copies are true and
that addresses and keys are unique; under it the repository is a partial map from keys to compasses
(`compass`), and every operation is described by what it does to that map.
-/

namespace Circe.Pilot

/-- A `boost::shared_ptr<Compass>`: an address and the object found there. -/
structure CompassPtr where
  get : ℕ
  object : Compass
deriving DecidableEq

structure CompassElement where
  compass : CompassPtr
  ptr : ℕ
  compassKey : CompassKey
  lastAccessTime : ℕ
deriving DecidableEq

def createCompassElement (compass : CompassPtr) : CompassElement :=
  ⟨compass, compass.get, compass.object.compassKey, compass.object.getLastAccessTime⟩

/-- `g_weak_compass_container`, and the address the next compass is made at. -/
structure CompassRepository where
  container : List CompassElement
  nextPtr : ℕ
deriving DecidableEq

namespace CompassRepository

/-! ## The source's functions -/

def getCompass (compassKey : CompassKey) (r : CompassRepository) : Option CompassPtr :=
  (r.container.find? fun e => e.compassKey = compassKey).map CompassElement.compass

def openCompass (compassKey : CompassKey) (r : CompassRepository) :
    CompassPtr × CompassRepository :=
  match r.getCompass compassKey with
  | some compass => (compass, r)
  | none =>
    let compass : CompassPtr := ⟨r.nextPtr, .create compassKey⟩
    (compass, ⟨r.container ++ [createCompassElement compass], r.nextPtr + 1⟩)

/-- What was done to a compass through a pointer, done to the object the container shares. -/
def store (compass : CompassPtr) (r : CompassRepository) : CompassRepository :=
  { r with container := r.container.map fun e =>
      if e.compass.get = compass.get then { e with compass := compass } else e }

def updateCompassIndices (ptr : ℕ) (r : CompassRepository) : CompassRepository :=
  { r with container := r.container.map fun e =>
      if e.ptr = ptr then createCompassElement e.compass else e }

/-- `Compass::update_last_access_time`. -/
def updateLastAccessTime (utcNow : ℕ) (compass : CompassPtr) (r : CompassRepository) :
    CompassRepository :=
  match compass.object.dao with
  | none => r
  | some _ =>
    (r.store { compass with object := compass.object.touch utcNow }).updateCompassIndices
      compass.get

def removeCompass (ptr : ℕ) (r : CompassRepository) : CompassRepository :=
  { r with container := r.container.filter fun e => e.ptr ≠ ptr }

/-- `saturated_sub(utc_now, expiry_duration)`. -/
def expiryTime (utcNow expiryDuration : ℕ) : ℕ := utcNow - expiryDuration

/-- The part of `gc_timer_proc` that is about memory: `erase<2>(begin<2>(), upper_bound<2>(…))`. -/
def gcTimerProc (utcNow expiryDuration : ℕ) (r : CompassRepository) : CompassRepository :=
  { r with container :=
      r.container.filter fun e => ¬ e.lastAccessTime ≤ expiryTime utcNow expiryDuration }

/-- The compass a request on `compassKey` works on. -/
def compass (r : CompassRepository) (compassKey : CompassKey) : Compass :=
  ((r.getCompass compassKey).map CompassPtr.object).getD (.create compassKey)

/-! ## The index tells the truth -/

/-- Keys and addresses are unique, and an element says what its compass says. -/
structure Inv (r : CompassRepository) : Prop where
  keys : (r.container.map CompassElement.compassKey).Nodup
  ptrs : (r.container.map CompassElement.ptr).Nodup
  truthful : ∀ e ∈ r.container, e = createCompassElement e.compass
  fresh : ∀ e ∈ r.container, e.ptr < r.nextPtr

section Views

variable {r : CompassRepository} {k k' : CompassKey} {p q : CompassPtr}

theorem Inv.mem_create (h : r.Inv) {e : CompassElement} (he : e ∈ r.container) :
    createCompassElement e.compass ∈ r.container := h.truthful e he ▸ he

theorem getCompass_eq_none_iff : r.getCompass k = none ↔ ∀ e ∈ r.container, e.compassKey ≠ k := by
  simp [getCompass]

/-- **Under the invariant the repository is a map**: a key is bound to a compass exactly when the
element of that compass is in the container. -/
theorem Inv.getCompass_eq_some_iff (h : r.Inv) :
    r.getCompass k = some p ↔ createCompassElement p ∈ r.container ∧ p.object.compassKey = k := by
  constructor
  · intro hget
    obtain ⟨e, he, rfl⟩ := Option.map_eq_some_iff.mp hget
    have hmem := List.mem_of_find?_eq_some he
    have hkey : e.compassKey = k := by simpa using List.find?_some he
    refine ⟨h.mem_create hmem, ?_⟩
    rw [h.truthful e hmem] at hkey
    exact hkey
  · rintro ⟨hmem, rfl⟩
    have hone : ∃ e, r.container.find? (fun e => e.compassKey = p.object.compassKey) = some e := by
      rw [← Option.isSome_iff_exists, List.find?_isSome]
      exact ⟨_, hmem, by simp [createCompassElement]⟩
    obtain ⟨e, he⟩ := hone
    have hkey : e.compassKey = (createCompassElement p).compassKey := by
      simpa [createCompassElement] using List.find?_some he
    have heq := List.inj_on_of_nodup_map h.keys (List.mem_of_find?_eq_some he) hmem hkey
    simp [getCompass, he, heq, createCompassElement]

theorem Inv.compassKey_of_getCompass (h : r.Inv) (hp : r.getCompass k = some p) :
    p.object.compassKey = k := (h.getCompass_eq_some_iff.mp hp).2

/-! ### Inserting and opening -/

/-- A compass whose key is not there may be inserted. -/
theorem Inv.insert (h : r.Inv) {c : Compass} (hnew : r.getCompass c.compassKey = none) :
    Inv ⟨r.container ++ [createCompassElement ⟨r.nextPtr, c⟩], r.nextPtr + 1⟩ := by
  have hkey := getCompass_eq_none_iff.mp hnew
  refine ⟨?_, ?_, ?_, ?_⟩
  · rw [List.map_append, List.nodup_append]
    refine ⟨h.keys, by simp, ?_⟩
    simp only [List.mem_map, List.map_cons, List.map_nil, List.mem_singleton]
    rintro _ ⟨e, he, rfl⟩ _ rfl
    exact hkey e he
  · rw [List.map_append, List.nodup_append]
    refine ⟨h.ptrs, by simp, ?_⟩
    simp only [List.mem_map, List.map_cons, List.map_nil, List.mem_singleton]
    rintro _ ⟨e, he, rfl⟩ _ rfl
    exact (h.fresh e he).ne
  · intro e he
    rcases List.mem_append.mp he with he | he
    · exact h.truthful e he
    · rw [List.mem_singleton.mp he]
      rfl
  · intro e he
    rcases List.mem_append.mp he with he | he
    · exact (h.fresh e he).trans (Nat.lt_succ_self _)
    · rw [List.mem_singleton.mp he]
      exact Nat.lt_succ_self _

theorem Inv.openCompass (h : r.Inv) (k : CompassKey) : (r.openCompass k).2.Inv := by
  unfold CompassRepository.openCompass
  split
  case h_1 => exact h
  case h_2 hnone => exact h.insert (c := .create k) hnone

/-- **`open_compass` finds the compass of a key or makes an empty one**; no other key is touched. -/
theorem Inv.openCompass_spec (h : r.Inv) (k : CompassKey) :
    (r.openCompass k).2.getCompass k = some (r.openCompass k).1 ∧
      (r.openCompass k).1.object = r.compass k ∧
      ∀ k', k' ≠ k → (r.openCompass k).2.getCompass k' = r.getCompass k' := by
  have hinv := h.openCompass k
  unfold CompassRepository.openCompass at hinv ⊢
  rw [CompassRepository.compass]
  cases hget : r.getCompass k with
  | some p => exact ⟨hget, rfl, fun _ _ => rfl⟩
  | none =>
    rw [hget] at hinv
    refine ⟨hinv.getCompass_eq_some_iff.mpr ⟨by simp, rfl⟩, rfl, fun k' hne => ?_⟩
    refine Option.ext fun p => ?_
    rw [hinv.getCompass_eq_some_iff, h.getCompass_eq_some_iff]
    simp only [List.mem_append, List.mem_singleton]
    constructor
    · rintro ⟨hmem | heq, hkey⟩
      · exact ⟨hmem, hkey⟩
      · have : p = ⟨r.nextPtr, .create k⟩ := congrArg CompassElement.compass heq
        subst this
        exact absurd hkey.symm hne
    · exact fun ⟨hmem, hkey⟩ => ⟨Or.inl hmem, hkey⟩

/-! ### Putting a changed compass back

`put` is what a request comes to in the end, with the index up to date again. -/

/-- Replace the element of an address by a true one. -/
def put (compass : CompassPtr) (r : CompassRepository) : CompassRepository :=
  { r with container := r.container.map fun e =>
      if e.ptr = compass.get then createCompassElement compass else e }

/-- The element at the address of the compass of `k` is that compass's. -/
theorem Inv.elem_of_ptr (h : r.Inv) (hp : r.getCompass k = some p) {e : CompassElement}
    (he : e ∈ r.container) (hptr : e.ptr = p.get) : e = createCompassElement p :=
  List.inj_on_of_nodup_map h.ptrs he (h.getCompass_eq_some_iff.mp hp).1 hptr

/-- Elements may be replaced by true ones of the same address and key. -/
theorem Inv.map (h : r.Inv) {f : CompassElement → CompassElement}
    (hf : ∀ e ∈ r.container, (f e).compassKey = e.compassKey ∧ (f e).ptr = e.ptr ∧
      f e = createCompassElement (f e).compass) :
    Inv { r with container := r.container.map f } := by
  refine ⟨?_, ?_, ?_, ?_⟩
  · rw [List.map_map]
    exact List.map_congr_left (fun e he => (hf e he).1) ▸ h.keys
  · rw [List.map_map]
    exact List.map_congr_left (fun e he => (hf e he).2.1) ▸ h.ptrs
  · intro e he
    obtain ⟨e, hmem, rfl⟩ := List.mem_map.mp he
    exact (hf e hmem).2.2
  · intro e he
    obtain ⟨e, hmem, rfl⟩ := List.mem_map.mp he
    rw [(hf e hmem).2.1]
    exact h.fresh e hmem

/-- What is done to a compass without its last access time leaves the index true. -/
theorem Inv.store (h : r.Inv)
    (hsame : ∀ e ∈ r.container, e.ptr = q.get →
      q.object.compassKey = e.compassKey ∧ q.object.getLastAccessTime = e.lastAccessTime) :
    (r.store q).Inv := by
  refine h.map fun e he => ?_
  have htrue := h.truthful e he
  have hget : e.compass.get = e.ptr := by rw [htrue]; rfl
  split
  case isTrue hptr =>
    have hptr' : e.ptr = q.get := hget ▸ hptr
    obtain ⟨hkey, htime⟩ := hsame e he hptr'
    refine ⟨rfl, rfl, ?_⟩
    simp [createCompassElement, hptr', hkey, htime]
  case isFalse => exact ⟨rfl, rfl, htrue⟩

theorem Inv.put (h : r.Inv) (hp : r.getCompass k = some p) (hget : q.get = p.get)
    (hkey : q.object.compassKey = p.object.compassKey) : (r.put q).Inv := by
  refine h.map fun e he => ?_
  split
  case isTrue hptr =>
    rw [h.elem_of_ptr hp he (hptr.trans hget)]
    exact ⟨hkey, hget, rfl⟩
  case isFalse => exact ⟨rfl, rfl, h.truthful e he⟩

/-- **Putting a compass back changes its own key only.** -/
theorem Inv.getCompass_put (h : r.Inv) (hp : r.getCompass k = some p) (hget : q.get = p.get)
    (hkey : q.object.compassKey = p.object.compassKey) (k' : CompassKey) :
    (r.put q).getCompass k' = if k' = k then some q else r.getCompass k' := by
  have hinv := h.put hp hget hkey
  have hk := h.compassKey_of_getCompass hp
  split
  case isTrue heq =>
    refine hinv.getCompass_eq_some_iff.mpr ⟨List.mem_map.mpr ⟨_, (h.getCompass_eq_some_iff.mp hp).1,
      ?_⟩, hkey.trans (hk.trans heq.symm)⟩
    rw [if_pos (show (createCompassElement p).ptr = q.get from hget.symm)]
  case isFalse hne =>
    refine Option.ext fun s => ?_
    rw [hinv.getCompass_eq_some_iff, h.getCompass_eq_some_iff]
    refine and_congr_left fun hs => ?_
    constructor
    · intro hmem
      obtain ⟨e, he, heq⟩ := List.mem_map.mp hmem
      split at heq
      · have : q = s := congrArg CompassElement.compass heq
        subst this
        exact absurd (hs.symm.trans (hkey.trans hk)) hne
      · exact heq ▸ he
    · intro hmem
      refine List.mem_map.mpr ⟨_, hmem, if_neg fun hptr => hne ?_⟩
      have heq := h.elem_of_ptr hp hmem (hptr.trans hget)
      have : s = p := congrArg CompassElement.compass heq
      rw [← hs, this, hk]

/-- Storing a compass whose last access time did not move leaves the index true. -/
theorem Inv.store_eq_put (h : r.Inv) (hp : r.getCompass k = some p) (hget : q.get = p.get)
    (hkey : q.object.compassKey = p.object.compassKey)
    (htime : q.object.getLastAccessTime = p.object.getLastAccessTime) : r.store q = r.put q := by
  rw [CompassRepository.store, CompassRepository.put]
  congr 1
  refine List.map_congr_left fun e he => ?_
  have hptr : e.compass.get = e.ptr := by rw [h.truthful e he]; rfl
  rw [hptr]
  split
  case isTrue heq =>
    rw [h.elem_of_ptr hp he (heq.trans hget)]
    simp [createCompassElement, hget, hkey, htime]
  case isFalse => rfl

/-- Re-creating the element of a stored compass makes the index true. -/
theorem Inv.updateCompassIndices_store (h : r.Inv) :
    (r.store q).updateCompassIndices q.get = r.put q := by
  rw [CompassRepository.updateCompassIndices, CompassRepository.store, CompassRepository.put]
  congr 1
  rw [List.map_map]
  refine List.map_congr_left fun e he => ?_
  have hptr : e.compass.get = e.ptr := by rw [h.truthful e he]; rfl
  by_cases heq : e.ptr = q.get <;> simp [hptr, heq]

theorem put_put (hget : q.get = p.get) : (r.put p).put q = r.put q := by
  rw [CompassRepository.put, CompassRepository.put, CompassRepository.put]
  congr 1
  rw [List.map_map]
  refine List.map_congr_left fun e _ => ?_
  by_cases heq : e.ptr = p.get <;> simp [hget, heq, createCompassElement]

/-- **Storing what a request made of a compass and updating its last access time** puts the compass
back, touched; a compass that was never written has no last access time to update. -/
theorem Inv.updateLastAccessTime_store (h : r.Inv) (hp : r.getCompass k = some p)
    (hget : q.get = p.get) (hkey : q.object.compassKey = p.object.compassKey)
    (htime : q.object.getLastAccessTime = p.object.getLastAccessTime) (utcNow : ℕ) :
    (r.store q).updateLastAccessTime utcNow q = r.put ⟨q.get, q.object.touch utcNow⟩ := by
  rw [h.store_eq_put hp hget hkey htime, CompassRepository.updateLastAccessTime]
  split
  case h_1 hnone =>
    have htouch : q.object.touch utcNow = q.object := by
      obtain ⟨_, ⟨_, _, _, _⟩⟩ := q
      cases hnone
      rfl
    rw [htouch]
  case h_2 =>
    rw [(h.put hp hget hkey).updateCompassIndices_store
      (q := ⟨q.get, q.object.touch utcNow⟩)]
    exact put_put (p := q) rfl

/-! ### Collecting -/

theorem Inv.filter (h : r.Inv) (keep : CompassElement → Bool) :
    Inv { r with container := r.container.filter keep } where
  keys := h.keys.sublist (List.filter_sublist.map _)
  ptrs := h.ptrs.sublist (List.filter_sublist.map _)
  truthful e he := h.truthful e (List.mem_of_mem_filter he)
  fresh e he := h.fresh e (List.mem_of_mem_filter he)

theorem Inv.gcTimerProc (h : r.Inv) (utcNow expiryDuration : ℕ) :
    (r.gcTimerProc utcNow expiryDuration).Inv := h.filter _

/-- **A tick removes exactly the compasses not accessed since the expiry time.** -/
theorem Inv.getCompass_gcTimerProc (h : r.Inv) (utcNow expiryDuration : ℕ) (k : CompassKey) :
    (r.gcTimerProc utcNow expiryDuration).getCompass k
      = (r.getCompass k).filter fun p =>
          ¬ p.object.getLastAccessTime ≤ expiryTime utcNow expiryDuration := by
  refine Option.ext fun p => ?_
  rw [(h.gcTimerProc utcNow expiryDuration).getCompass_eq_some_iff, Option.filter_eq_some_iff,
    h.getCompass_eq_some_iff, CompassRepository.gcTimerProc, List.mem_filter]
  simp only [createCompassElement]
  tauto

end Views

end CompassRepository

end Circe.Pilot
