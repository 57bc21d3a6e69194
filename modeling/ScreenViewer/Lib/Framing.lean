import Mathlib

/-!
# Self-delimiting frames in a byte stream

A `Codec β α` writes values of `α` as words over `β` and reads one value back from the front of a
stream.  Its two laws say that a decoded word is exactly an encoding (`of_decode`) and that an
encoding is decoded whatever follows it (`decode_encode`).

`Codec.decodeAll` reads values until none is left at the front.  It returns the longest list of
accepted values whose encodings begin the stream (`Codec.prefix_decodeAll`) and the rest of the
stream, and nothing is lost between the two (`Codec.encodeAll_decodeAll`).

A `Reader` is any stateful procedure that reads one value at a time from the bytes it still has in
front of it; iterating one computes `decodeAll` whatever its state looks like
(`Reader.readAll_eq`), and so does a list of different readers used in turn (`readEach_encodeAll`).
-/

namespace Framing

universe u v

variable {β : Type u} {α : Type v}

/-- A self-delimiting code for the values of `α` that satisfy `Accepts`. -/
structure Codec (β : Type u) (α : Type v) where
  /-- The values that the decoder accepts. -/
  Accepts : α → Prop
  /-- The word written for a value. -/
  encode : α → List β
  /-- Reads one value from the front of a stream, with what follows it. -/
  decode : List β → Option (α × List β)
  /-- No value is written as the empty word. -/
  encode_ne_nil : ∀ a, encode a ≠ []
  /-- An accepted value is read back whatever follows it. -/
  decode_encode : ∀ a, Accepts a → ∀ t, decode (encode a ++ t) = some (a, t)
  /-- What is read is accepted, and its word is what has been consumed. -/
  of_decode : ∀ s a t, decode s = some (a, t) → Accepts a ∧ s = encode a ++ t

namespace Codec

variable (C : Codec β α)

/-- The words of a list of values, one after another. -/
def encodeAll (as : List α) : List β := as.flatMap C.encode

@[simp] lemma encodeAll_nil : C.encodeAll [] = [] := rfl

@[simp] lemma encodeAll_cons (a : α) (as : List α) :
    C.encodeAll (a :: as) = C.encode a ++ C.encodeAll as := rfl

@[simp] lemma encodeAll_append (as bs : List α) :
    C.encodeAll (as ++ bs) = C.encodeAll as ++ C.encodeAll bs :=
  List.flatMap_append

/-- Reading one value makes the stream shorter. -/
lemma length_lt_of_decode {s t : List β} {a : α} (h : C.decode s = some (a, t)) :
    t.length < s.length := by
  obtain ⟨-, rfl⟩ := C.of_decode s a t h
  have hpos : 0 < (C.encode a).length := List.length_pos_iff.mpr (C.encode_ne_nil a)
  simp only [List.length_append]
  omega

/-- Reads values until none is left at the front; the second component is the rest. -/
def decodeAll (s : List β) : List α × List β :=
  match h : C.decode s with
  | none => ([], s)
  | some (a, t) =>
    have := C.length_lt_of_decode h
    (a :: (decodeAll t).1, (decodeAll t).2)
termination_by s.length

/-- A stream that begins with no value decodes to nothing. -/
lemma decodeAll_of_none {s : List β} (h : C.decode s = none) : C.decodeAll s = ([], s) := by
  rw [decodeAll]
  split
  · rfl
  · rename_i heq
    rw [h] at heq
    cases heq

/-- A stream that begins with a value decodes to it and to what the rest decodes to. -/
lemma decodeAll_of_some {s t : List β} {a : α} (h : C.decode s = some (a, t)) :
    C.decodeAll s = (a :: (C.decodeAll t).1, (C.decodeAll t).2) := by
  rw [decodeAll]
  split
  · rename_i heq
    rw [h] at heq
    cases heq
  · rename_i heq
    rw [h] at heq
    cases heq
    rfl

/-- Nothing of the stream is lost: the values read and the rest make it up again. -/
theorem encodeAll_decodeAll (s : List β) :
    C.encodeAll (C.decodeAll s).1 ++ (C.decodeAll s).2 = s := by
  induction s using decodeAll.induct C with
  | case1 s h => simp [C.decodeAll_of_none h]
  | case2 s a t h _ ih =>
    rw [C.decodeAll_of_some h, encodeAll_cons, List.append_assoc, ih]
    exact (C.of_decode s a t h).2.symm

/-- Every value read is accepted. -/
theorem accepts_of_mem_decodeAll {s : List β} {a : α} (h : a ∈ (C.decodeAll s).1) :
    C.Accepts a := by
  induction s using decodeAll.induct C with
  | case1 s hs => simp [C.decodeAll_of_none hs] at h
  | case2 s b t hs _ ih =>
    rw [C.decodeAll_of_some hs] at h
    rcases List.mem_cons.mp h with rfl | h
    · exact (C.of_decode s a t hs).1
    · exact ih h

/-- Encodings at the front of a stream are read back, and reading goes on behind them. -/
theorem decodeAll_encodeAll_append {as : List α} (has : ∀ a ∈ as, C.Accepts a) (t : List β) :
    C.decodeAll (C.encodeAll as ++ t) = (as ++ (C.decodeAll t).1, (C.decodeAll t).2) := by
  induction as with
  | nil => simp
  | cons a as ih =>
    have ha : C.decode (C.encode a ++ (C.encodeAll as ++ t)) = some (a, C.encodeAll as ++ t) :=
      C.decode_encode a (has a List.mem_cons_self) _
    rw [encodeAll_cons, List.append_assoc, C.decodeAll_of_some ha,
      ih fun b hb => has b (List.mem_cons_of_mem a hb)]
    rfl

/-- `decodeAll` is maximal: every list of accepted values whose encodings begin the stream begins
the list of values read. -/
theorem prefix_decodeAll {as : List α} {s : List β} (has : ∀ a ∈ as, C.Accepts a)
    (h : C.encodeAll as <+: s) : as <+: (C.decodeAll s).1 := by
  obtain ⟨t, rfl⟩ := h
  rw [C.decodeAll_encodeAll_append has t]
  exact List.prefix_append _ _

/-- Encodings one of which begins the other are encodings of lists one of which begins the other. -/
theorem isPrefix_of_encodeAll {as bs : List α} (has : ∀ a ∈ as, C.Accepts a)
    (hbs : ∀ b ∈ bs, C.Accepts b) (h : C.encodeAll as <+: C.encodeAll bs) : as <+: bs := by
  have hnone : C.decode [] = none := by
    cases hdecode : C.decode [] with
    | none => rfl
    | some r =>
      obtain ⟨-, heq⟩ := C.of_decode [] r.1 r.2 hdecode
      exact absurd (List.append_eq_nil_iff.mp heq.symm).1 (C.encode_ne_nil r.1)
  have hall := C.decodeAll_encodeAll_append hbs []
  rw [C.decodeAll_of_none hnone, List.append_nil, List.append_nil] at hall
  have hpre := C.prefix_decodeAll has h
  rwa [hall] at hpre

/-- What begins with an encoded value, or goes on to one, decodes to this value or to nothing
yet. -/
theorem decode_cases {a : α} (ha : C.Accepts a) {s t : List β} (h : s <+: C.encode a ++ t) :
    (∃ t', C.decode s = some (a, t') ∧ t' <+: t) ∨ (C.decode s = none ∧ s <+: C.encode a) := by
  rcases List.prefix_or_prefix_of_prefix (List.prefix_append (C.encode a) t) h with hle | hle
  · obtain ⟨t', rfl⟩ := hle
    exact Or.inl ⟨t', C.decode_encode a ha t', (List.prefix_append_right_inj _).mp h⟩
  · cases hdecode : C.decode s with
    | none => exact Or.inr ⟨rfl, hle⟩
    | some r =>
      obtain ⟨u, hu⟩ := hle
      obtain ⟨haccepts, heq⟩ := C.of_decode s r.1 r.2 hdecode
      have hback := C.decode_encode r.1 haccepts (r.2 ++ u)
      rw [← List.append_assoc, ← heq, hu, ← List.append_nil (C.encode a),
        C.decode_encode a ha []] at hback
      obtain ⟨hr, hnil⟩ := Prod.mk.inj (Option.some.inj hback)
      obtain ⟨ht, -⟩ := List.append_eq_nil_iff.mp hnil.symm
      exact Or.inl ⟨[], by rw [hr, ← ht], List.nil_prefix⟩

end Codec

/-- A stateful procedure that reads one value at a time.  `bytes` is what is still in front of it,
and `stop` says, from these bytes alone, why it cannot read a value there. -/
structure Reader (C : Codec β α) {ε : Type*} (stop : List β → ε) (σ : Type*) where
  /-- The bytes in front of the reader. -/
  bytes : σ → List β
  /-- Reads one value. -/
  read : σ → Except ε (α × σ)
  /-- A value is read exactly as the codec decodes it. -/
  of_ok : ∀ {s a s'}, read s = .ok (a, s') → C.decode (bytes s) = some (a, bytes s')
  /-- The reader fails only where the codec decodes nothing. -/
  of_error : ∀ {s e}, read s = .error e → C.decode (bytes s) = none ∧ e = stop (bytes s)

namespace Reader

variable {C : Codec β α} {ε : Type*} {stop : List β → ε} {σ : Type*} (R : Reader C stop σ)

/-- A reader reads a value wherever the codec decodes one. -/
lemma read_of_decode {s : σ} {a : α} {t : List β} (h : C.decode (R.bytes s) = some (a, t)) :
    ∃ s', R.read s = .ok (a, s') ∧ R.bytes s' = t := by
  cases hr : R.read s with
  | error e =>
    rw [(R.of_error hr).1] at h
    cases h
  | ok p =>
    obtain ⟨b, s'⟩ := p
    rw [R.of_ok hr] at h
    cases h
    exact ⟨s', rfl, rfl⟩

/-- Reads values until the reader fails: the values, the failure, and the state before it. -/
def readAll (s : σ) : List α × ε × σ :=
  match h : R.read s with
  | .error e => ([], e, s)
  | .ok (a, s') =>
    have := C.length_lt_of_decode (R.of_ok h)
    (a :: (readAll s').1, (readAll s').2)
termination_by (R.bytes s).length

/-- Where a reader fails at once, it reads nothing. -/
lemma readAll_of_error {s : σ} {e : ε} (h : R.read s = .error e) : R.readAll s = ([], e, s) := by
  rw [readAll]
  split <;> rename_i heq <;> rw [h] at heq <;> cases heq
  rfl

/-- Where a reader reads a value, it reads it first. -/
lemma readAll_of_ok {s s' : σ} {a : α} (h : R.read s = .ok (a, s')) :
    R.readAll s = (a :: (R.readAll s').1, (R.readAll s').2) := by
  rw [readAll]
  split <;> rename_i heq <;> rw [h] at heq <;> cases heq
  rfl

/-- Iterating a reader decodes the bytes in front of it, and it fails where decoding ends. -/
theorem readAll_eq (s : σ) :
    (R.readAll s).1 = (C.decodeAll (R.bytes s)).1 ∧
      (R.readAll s).2.1 = stop (C.decodeAll (R.bytes s)).2 ∧
      R.bytes (R.readAll s).2.2 = (C.decodeAll (R.bytes s)).2 := by
  induction s using readAll.induct R with
  | case1 s e h =>
    obtain ⟨hdec, rfl⟩ := R.of_error h
    simp [R.readAll_of_error h, C.decodeAll_of_none hdec]
  | case2 s a s' h _ ih =>
    rw [R.readAll_of_ok h, C.decodeAll_of_some (R.of_ok h)]
    exact ⟨by rw [ih.1], ih.2⟩

end Reader

section ReadEach

variable {C : Codec β α} {ε : Type*} {stop : List β → ε} {σ : Type*}

/-- Reads one value with each of a list of readers in turn. -/
def readEach : List (Reader C stop σ) → σ → Except ε (List α × σ)
  | [], s => .ok ([], s)
  | R :: Rs, s =>
    match R.read s with
    | .error e => .error e
    | .ok (a, s') =>
      match readEach Rs s' with
      | .error e => .error e
      | .ok (as, s'') => .ok (a :: as, s'')

/-- As many readers as there are encoded values in front read exactly these values and stand behind
them. -/
theorem readEach_encodeAll {bytes : σ → List β} {as : List α} (has : ∀ a ∈ as, C.Accepts a)
    {Rs : List (Reader C stop σ)} (hlen : Rs.length = as.length) (hRs : ∀ R ∈ Rs, R.bytes = bytes)
    {s : σ} {t : List β} (hs : bytes s = C.encodeAll as ++ t) :
    ∃ s', readEach Rs s = .ok (as, s') ∧ bytes s' = t := by
  induction Rs generalizing as s with
  | nil =>
    obtain rfl : as = [] := List.length_eq_zero_iff.mp hlen.symm
    exact ⟨s, rfl, by simpa using hs⟩
  | cons R Rs ih =>
    cases as with
    | nil => simp at hlen
    | cons a as =>
      have hR : R.bytes = bytes := hRs R List.mem_cons_self
      have hdec : C.decode (R.bytes s) = some (a, C.encodeAll as ++ t) := by
        rw [hR, hs, Codec.encodeAll_cons, List.append_assoc]
        exact C.decode_encode a (has a List.mem_cons_self) _
      obtain ⟨s₁, hread, hs₁⟩ := R.read_of_decode hdec
      obtain ⟨s', hrest, hs'⟩ := ih (fun b hb => has b (List.mem_cons_of_mem a hb))
        (by simpa using hlen) (fun Q hQ => hRs Q (List.mem_cons_of_mem R hQ)) (hR ▸ hs₁)
      refine ⟨s', ?_, hs'⟩
      simp [readEach, hread, hrest]

end ReadEach

end Framing
