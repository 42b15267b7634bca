import RecordCache.Store.Basic
/-! The ways to make a window, compared. A window is the same bytes whatever it is made from and
however the reads behind it are served, as long as it starts inside the store. Past the end a store
in memory has no window to give, and past the reach of a seek a file that is read has none, where a
mapped file still answers with no bytes. -/
namespace RecordCache

variable {s : Store} {r : WindowRequest} {servings : List Serving} {read bytes : List UInt8}

abbrev Outcome := Except Fault (Except IoError Window)

/-- Windows over the same records and with the same bytes, or errors of one kind. A fault agrees
with nothing, itself included. -/
inductive Outcome.Agree : Outcome → Outcome → Prop where
  | windows {v w : Window} (first : v.firstRecord = w.firstRecord)
      (records : v.recordsPerPage = w.recordsPerPage)
      (size : v.bytesPerRecord = w.bytesPerRecord) (bytes : v.bytes = w.bytes) :
      Agree (.ok (.ok v)) (.ok (.ok w))
  | errors {e f : IoError} (kind : e.kind = f.kind) : Agree (.ok (.error e)) (.ok (.error f))

def WindowRequest.present (r : WindowRequest) (bytes : List UInt8) : List UInt8 :=
  (bytes.drop r.offset).take r.span

inductive Store.Served (s : Store) (r : WindowRequest) : Outcome → Prop where
  | unaddressable (far : twoTo 64 ≤ r.offset) : Served s r (.ok (.error r.unaddressable))
  | pastEnd (near : r.offset < twoTo 64) (memory : s.backing = .memory) (past : s.size < r.offset) :
      Served s r (.error .sliceOutOfRange)
  | unseekable {path : String} (near : r.offset < twoTo 64) (read : s.backing = .file .read path)
      (far : twoTo 63 ≤ r.offset) : Served s r (.ok (.error .invalidArgument))
  | window (mapped : Bool) (near : r.offset < twoTo 64)
      (inside : s.backing = .memory → r.offset ≤ s.size)
      (seekable : ∀ path, s.backing = .file .read path → r.offset < twoTo 63) :
      Served s r (.ok (.ok (r.window mapped (r.present s.bytes))))

namespace Store

theorem slice_append_slice (s : Store) (offset m n : Nat) :
    s.slice offset m ++ s.slice (offset + m) n = s.slice offset (m + n) := by
  rw [slice, slice, slice, List.take_add, List.drop_drop]

theorem slice_length_slice (s : Store) (offset n : Nat) :
    s.slice offset (s.slice offset n).length = s.slice offset n := by
  rw [slice, slice, List.length_take, List.take_eq_take_iff]
  omega

theorem slice_min (s : Store) (offset n : Nat) :
    s.slice offset (min (s.size - offset) n) = s.slice offset n := by
  rw [slice, slice, List.take_eq_take_iff, List.length_drop, size]
  omega

/-- A read that ends early and one that is interrupted are made up for: the loop ends with the bytes
that one full read would have brought. -/
theorem fill_eq_slice {offset length : Nat} (servings : List Serving)
    (hr : read = s.slice offset read.length) (hl : read.length ≤ length) :
    s.fill offset length servings read = s.slice offset length := by
  induction servings generalizing read with
  | nil =>
    calc read ++ s.slice (offset + read.length) (length - read.length)
      _ = s.slice offset read.length ++ s.slice (offset + read.length) (length - read.length) := by
        rw [← hr]
      _ = s.slice offset length := by rw [slice_append_slice, Nat.add_sub_cancel' hl]
  | cons serving servings ih =>
    unfold fill
    split
    case isTrue hfull => rw [hr, Nat.le_antisymm hl hfull]
    case isFalse hpart =>
      cases serving with
      | interrupted => exact ih hr hl
      | upTo spare =>
        dsimp only
        generalize hm : min (spare + 1) (length - read.length) = m
        have hmore : read ++ s.slice (offset + read.length) m =
            s.slice offset (read.length + m) := by
          rw [← slice_append_slice, ← hr]
        split
        case isTrue hnone =>
          -- no byte came although one was asked for, so the store ends here
          have hend : s.bytes.drop (offset + read.length) = [] := by
            rw [List.isEmpty_iff, slice, List.take_eq_nil_iff] at hnone
            exact hnone.resolve_left (by omega)
          calc read
            _ = s.slice offset read.length ++
                s.slice (offset + read.length) (length - read.length) := by
              rw [← hr, slice, hend, List.take_nil, List.append_nil]
            _ = s.slice offset length := by rw [slice_append_slice, Nat.add_sub_cancel' hl]
        case isFalse hsome =>
          apply ih
          · rw [hmore, slice_length_slice]
          · rw [List.length_append, slice, List.length_take]
            omega

theorem fill_nil (s : Store) (offset length : Nat) (servings : List Serving) :
    s.fill offset length servings [] = s.slice offset length := by
  apply fill_eq_slice servings
  · rw [slice, List.length_nil, List.take_zero]
  · exact Nat.zero_le length

theorem slice_range (s : Store) (r : WindowRequest) :
    s.slice r.offset (min (s.size - r.offset) r.span) = r.present s.bytes :=
  slice_min s r.offset r.span

theorem served (s : Store) (servings : List Serving) (r : WindowRequest) :
    s.Served r (s.windowServed servings r) := by
  unfold windowServed WindowRequest.range
  by_cases near : r.offset < twoTo 64
  · rw [if_pos near]
    dsimp only
    split
    case h_1 memory =>
      split
      case isTrue past => exact .pastEnd near memory (by omega)
      case isFalse inside =>
        rw [slice_range]
        exact .window false near (fun _ => by omega) (by simp [memory])
    case h_2 path mmap =>
      split
      case isTrue none =>
        have hnone : r.present s.bytes = [] := by rw [← slice_range, none, slice, List.take_zero]
        rw [← hnone]
        exact .window false near (by simp [mmap]) (by simp [mmap])
      case isFalse some =>
        rw [slice_range]
        exact .window true near (by simp [mmap]) (by simp [mmap])
    case h_3 path read =>
      split
      case isTrue seekable =>
        rw [fill_nil, slice_range]
        exact .window false near (by simp [read]) fun _ _ => seekable
      case isFalse far => exact .unseekable near read (Nat.not_lt.mp far)
  · rw [if_neg near]
    exact .unaddressable (Nat.not_lt.mp near)

theorem Served.eq_window {w : Window} (h : s.Served r (.ok (.ok w))) :
    ∃ mapped, w = r.window mapped (r.present s.bytes) := by
  cases h with
  | window mapped near inside seekable => exact ⟨mapped, rfl⟩

theorem Served.kind_eq {e : IoError} (h : s.Served r (.ok (.error e))) :
    e.kind = .invalidInput := by
  cases h with
  | unaddressable far => rfl
  | unseekable near read far => rfl

theorem Served.fault_iff {o : Outcome} (h : s.Served r o) :
    (∃ f, o = .error f) ↔ s.backing = .memory ∧ s.size < r.offset ∧ r.offset < twoTo 64 := by
  cases h with
  | pastEnd near memory past => simp [memory, past, near]
  | unaddressable far => simp [Nat.not_lt.mpr far]
  | unseekable near read far => simp [read]
  | window mapped near inside seekable =>
    simp only [reduceCtorEq, exists_false, false_iff, not_and]
    intro memory past
    exact absurd (inside memory) (Nat.not_le.mpr past)

theorem Served.refusal_iff {o : Outcome} (h : s.Served r o) :
    (∃ e, o = .ok (.error e)) ↔
      twoTo 64 ≤ r.offset ∨ (∃ path, s.backing = .file .read path) ∧ twoTo 63 ≤ r.offset := by
  cases h with
  | unaddressable far => simp [far]
  | unseekable near read far => simp [read, far]
  | pastEnd near memory past => simp [memory, near]
  | window mapped near inside seekable =>
    simp only [Except.ok.injEq, reduceCtorEq, exists_false, false_iff, not_or, not_and, Nat.not_le]
    refine ⟨near, ?_⟩
    rintro ⟨path, read⟩
    exact seekable path read

end Store

namespace Outcome

theorem Agree.ne_fault {o o' : Outcome} (h : Agree o o') (f : Fault) : o ≠ .error f := by
  cases h <;> simp

theorem Agree.refusal_iff {o o' : Outcome} (h : Agree o o') :
    (∃ e, o = .ok (.error e)) ↔ ∃ e, o' = .ok (.error e) := by
  cases h <;> simp

theorem agree_of_served {s s' : Store} {o o' : Outcome} (h : s.Served r o) (h' : s'.Served r o')
    (hbytes : s.bytes = s'.bytes) (hsound : ¬∃ f, o = .error f) (hsound' : ¬∃ f, o' = .error f)
    (hsame : (∃ e, o = .ok (.error e)) ↔ ∃ e, o' = .ok (.error e)) : Agree o o' := by
  rcases o with f | e | w
  · exact absurd ⟨f, rfl⟩ hsound
  · obtain ⟨e', rfl⟩ := hsame.mp ⟨e, rfl⟩
    exact .errors (h.kind_eq.trans h'.kind_eq.symm)
  · rcases o' with f' | e' | w'
    · exact absurd ⟨f', rfl⟩ hsound'
    · obtain ⟨e, he⟩ := hsame.mpr ⟨e', rfl⟩
      cases he
    · obtain ⟨mapped, rfl⟩ := h.eq_window
      obtain ⟨mapped', rfl⟩ := h'.eq_window
      rw [hbytes]
      exact .windows rfl rfl rfl rfl

end Outcome

open Outcome in
/-- The ways to make a window agree exactly on the requests that start inside the store and within
reach of a seek, and on those that no store can address. A window has the bytes present of those it
covers, so none past the end; a refusal is for invalid input; past the end a store in memory has a
fault instead, and past the reach of a seek a file that is read refuses, where a mapped file answers
with no bytes. -/
theorem Store.backings_agree_iff (bytes : List UInt8) (r : WindowRequest) :
    ((∀ (b b' : Backing) (servings servings' : List Serving),
        Agree (Store.windowServed ⟨b, bytes⟩ servings r)
          (Store.windowServed ⟨b', bytes⟩ servings' r)) ↔
      r.offset ≤ bytes.length ∧ r.offset < twoTo 63 ∨ twoTo 64 ≤ r.offset) ∧
    ∀ (b : Backing) (servings : List Serving),
      let outcome := Store.windowServed ⟨b, bytes⟩ servings r
      (∀ w, outcome = .ok (.ok w) →
        ∃ mapped, w = r.window mapped ((bytes.drop r.offset).take r.span)) ∧
      (∀ e, outcome = .ok (.error e) → e.kind = .invalidInput) ∧
      ((∃ f, outcome = .error f) ↔
        b = .memory ∧ bytes.length < r.offset ∧ r.offset < twoTo 64) ∧
      ((∃ e, outcome = .ok (.error e)) ↔
        twoTo 64 ≤ r.offset ∨ (∃ path, b = .file .read path) ∧ twoTo 63 ≤ r.offset) := by
  have hserved (b : Backing) (servings : List Serving) := Store.served ⟨b, bytes⟩ servings r
  refine ⟨⟨?_, ?_⟩, ?_⟩
  · intro hagree
    rcases Nat.lt_or_ge r.offset (twoTo 64) with hnear | hfar
    · left
      constructor
      · refine Nat.not_lt.mp fun hpast => ?_
        obtain ⟨f, hf⟩ := (hserved .memory []).fault_iff.mpr ⟨rfl, hpast, hnear⟩
        exact (hagree .memory .memory [] []).ne_fault f hf
      · refine Nat.not_le.mp fun hfar => ?_
        -- the store in memory does not refuse here, the file that is read does
        have hread := (hserved (.file .read "") []).refusal_iff.mpr (.inr ⟨⟨"", rfl⟩, hfar⟩)
        have hmemory := (hagree .memory (.file .read "") [] []).refusal_iff.mpr hread
        rw [(hserved .memory []).refusal_iff] at hmemory
        rcases hmemory with hfar | ⟨⟨path, hpath⟩, -⟩
        · omega
        · cases hpath
    · exact .inr hfar
  · intro hin b b' servings servings'
    have hsound (b : Backing) (servings : List Serving) :
        ¬∃ f, Store.windowServed ⟨b, bytes⟩ servings r = .error f := by
      rw [(hserved b servings).fault_iff]
      rintro ⟨-, hpast, hnear⟩
      change bytes.length < r.offset at hpast
      omega
    have hrefused (b : Backing) (servings : List Serving) :
        (∃ e, Store.windowServed ⟨b, bytes⟩ servings r = .ok (.error e)) ↔ twoTo 64 ≤ r.offset := by
      rw [(hserved b servings).refusal_iff]
      omega
    exact agree_of_served (hserved b servings) (hserved b' servings') rfl (hsound b servings)
      (hsound b' servings') ((hrefused b servings).trans (hrefused b' servings').symm)
  · intro b servings
    have hb := hserved b servings
    exact ⟨fun w h => (h ▸ hb).eq_window, fun e h => (h ▸ hb).kind_eq, hb.fault_iff,
      hb.refusal_iff⟩

/-- A window over the end of a store, read in pieces, against the same window in memory. -/
theorem Store.pieces_agree_over_end :
    Outcome.Agree
      (Store.windowServed ⟨.file .read "store", numberedRecords 3 8⟩
        [.interrupted, .upTo 2, .upTo 0] ⟨2, 4, 8⟩)
      (Store.windowServed ⟨.memory, numberedRecords 3 8⟩ [] ⟨2, 4, 8⟩) :=
  (Store.backings_agree_iff (numberedRecords 3 8) ⟨2, 4, 8⟩).1.mpr (.inl ⟨by decide, by decide⟩)
    (.file .read "store") .memory [.interrupted, .upTo 2, .upTo 0] []

/-- A window that starts one record past the end of a store of one record: in memory it is a fault,
and from a mapped file no bytes. -/
theorem Store.memory_faults_past_end :
    Store.windowServed ⟨.memory, numberedRecords 1 8⟩ [] ⟨2, 4, 8⟩ = .error .sliceOutOfRange ∧
      Store.windowServed ⟨.file .mmap "store", numberedRecords 1 8⟩ [] ⟨2, 4, 8⟩ =
        .ok (.ok ⟨2, 4, 8, false, []⟩) ∧
      ¬Outcome.Agree (Store.windowServed ⟨.memory, numberedRecords 1 8⟩ [] ⟨2, 4, 8⟩)
        (Store.windowServed ⟨.file .mmap "store", numberedRecords 1 8⟩ [] ⟨2, 4, 8⟩) := by
  have hmemory : Store.windowServed ⟨.memory, numberedRecords 1 8⟩ [] ⟨2, 4, 8⟩ =
      .error .sliceOutOfRange := rfl
  have hmmap : Store.windowServed ⟨.file .mmap "store", numberedRecords 1 8⟩ [] ⟨2, 4, 8⟩ =
      .ok (.ok ⟨2, 4, 8, false, []⟩) := rfl
  refine ⟨hmemory, hmmap, ?_⟩
  intro h
  exact h.ne_fault .sliceOutOfRange hmemory

end RecordCache
