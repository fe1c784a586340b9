import TrillionniumGame.Foundation.Checks
import TrillionniumGame.Foundation.GoJson

namespace DigestTable
open GoText

def bigEndian (n : Nat) : Nat → GoString
  | 0 => []
  | k + 1 => UInt8.ofNat (n >>> (8 * k)) :: bigEndian n k

theorem length_bigEndian (n k : Nat) : (bigEndian n k).length = k := by
  induction k with
  | zero => rfl
  | succ k ih => rw [bigEndian, List.length_cons, ih]

def digest (n : Nat) : Vector UInt8 32 := ⟨(bigEndian n 32).toArray, length_bigEndian n 32⟩

end DigestTable

namespace Framing
open Checks DigestTable GoText

variable {F ε : Type}

structure SelfDelimiting (encode : F → Except ε GoString) (Same : F → F → Prop) : Prop where
  peel : ∀ {f g : F} {b b' r r' : GoString}, Same f g → encode f = .ok b → encode g = .ok b' →
    b ++ r = b' ++ r' → f = g ∧ r = r'

def encodeAll (encode : F → Except ε GoString) : List F → Except ε GoString
  | [] => .ok []
  | field :: rest => do
    let head ← encode field
    let tail ← encodeAll encode rest
    return head ++ tail

variable {encode : F → Except ε GoString} {Same : F → F → Prop} {b : GoString}

theorem encodeAll_cons {field : F} {rest : List F} :
    encodeAll encode (field :: rest) = .ok b ↔
      ∃ head tail, encode field = .ok head ∧ encodeAll encode rest = .ok tail ∧ b = head ++ tail := by
  simp only [encodeAll, bind_ok]
  constructor
  · rintro ⟨head, hhead, tail, htail, h⟩
    exact ⟨head, tail, hhead, htail, (Except.ok.inj h).symm⟩
  · rintro ⟨head, tail, hhead, htail, rfl⟩
    exact ⟨head, hhead, tail, htail, rfl⟩

variable {fs gs : List F} {r r' : GoString}

theorem SelfDelimiting.peelAll (h : SelfDelimiting encode Same) (hsame : List.Forall₂ Same fs gs)
    {b' : GoString} (hf : encodeAll encode fs = .ok b) (hg : encodeAll encode gs = .ok b')
    (heq : b ++ r = b' ++ r') : fs = gs ∧ r = r' := by
  induction hsame generalizing b b' with
  | nil =>
    cases hf
    cases hg
    exact ⟨rfl, heq⟩
  | cons hhead _ ih =>
    obtain ⟨head, tail, hfield, hfs, rfl⟩ := encodeAll_cons.mp hf
    obtain ⟨head', tail', hfield', hgs, rfl⟩ := encodeAll_cons.mp hg
    rw [List.append_assoc, List.append_assoc] at heq
    obtain ⟨rfl, hrest⟩ := h.peel hhead hfield hfield' heq
    obtain ⟨rfl, hr⟩ := ih hfs hgs hrest
    exact ⟨rfl, hr⟩

theorem SelfDelimiting.injAll (h : SelfDelimiting encode Same)
    (hsame : ∀ f ∈ fs, ∀ g ∈ gs, Same f g) (hne : ∀ f, encode f ≠ .ok [])
    (hf : encodeAll encode fs = .ok b) (hg : encodeAll encode gs = .ok b) : fs = gs := by
  have hempty : ∀ {f : F} {rest : List F}, encodeAll encode (f :: rest) ≠ .ok [] := by
    intro f rest hnil
    obtain ⟨head, tail, hhead, _, heq⟩ := encodeAll_cons.mp hnil
    rw [(List.append_eq_nil_iff.mp heq.symm).1] at hhead
    exact hne f hhead
  induction fs generalizing gs b with
  | nil =>
    cases hf
    cases gs with
    | nil => rfl
    | cons g gs => exact absurd hg hempty
  | cons f fs ih =>
    cases gs with
    | nil =>
      cases hg
      exact absurd hf hempty
    | cons g gs =>
      obtain ⟨head, tail, hhead, htail, rfl⟩ := encodeAll_cons.mp hf
      obtain ⟨head', tail', hhead', htail', heq⟩ := encodeAll_cons.mp hg
      obtain ⟨rfl, rfl⟩ := h.peel (hsame f (by simp) g (by simp)) hhead hhead' heq
      rw [ih (fun f hf g hg => hsame f (List.mem_cons_of_mem _ hf) g (List.mem_cons_of_mem _ hg))
        htail htail']

theorem tag_peel {d d' x y : GoString} (hd : (0 : UInt8) ∉ d) (hd' : (0 : UInt8) ∉ d')
    (h : d ++ 0 :: x = d' ++ 0 :: y) : d = d' ∧ x = y := by
  induction d generalizing d' with
  | nil =>
    cases d' with
    | nil => exact ⟨rfl, (List.cons.inj h).2⟩
    | cons c d' => exact absurd ((List.cons.inj h).1 ▸ List.mem_cons_self) hd'
  | cons c d ih =>
    cases d' with
    | nil => exact absurd ((List.cons.inj h).1 ▸ List.mem_cons_self) hd
    | cons c' d' =>
      simp only [List.cons_append, List.cons.injEq] at h
      obtain ⟨rfl, h⟩ := h
      obtain ⟨rfl, hxy⟩ := ih (fun hm => hd (List.mem_cons_of_mem _ hm))
        (fun hm => hd' (List.mem_cons_of_mem _ hm)) h
      exact ⟨rfl, hxy⟩

def readBigEndian (bytes : GoString) (high : Nat) : Nat :=
  bytes.foldl (fun high byte => high * 256 + byte.toNat) high

theorem readBigEndian_bigEndian (n k high : Nat) :
    readBigEndian (bigEndian n k) high = high * 256 ^ k + n % 256 ^ k := by
  induction k generalizing high with
  | zero => simp [readBigEndian, bigEndian, Nat.mod_one]
  | succ k ih =>
    have hexp : (2 : Nat) ^ (8 * k) = 256 ^ k := Nat.pow_mul 2 8 k
    have hbyte : (UInt8.ofNat (n >>> (8 * k))).toNat = n / 256 ^ k % 256 := by
      rw [UInt8.toNat_ofNat', Nat.shiftRight_eq_div_pow, hexp]
    have hstep : readBigEndian (bigEndian n (k + 1)) high =
        readBigEndian (bigEndian n k) (high * 256 + n / 256 ^ k % 256) := by
      rw [← hbyte]
      rfl
    rw [hstep, ih, Nat.pow_succ, Nat.mod_mul, Nat.add_mul, Nat.mul_assoc, Nat.mul_comm 256,
      Nat.mul_comm (256 ^ k) (n / 256 ^ k % 256)]
    omega

variable {m n k : Nat}

theorem bigEndian_inj (hm : m < 256 ^ k) (hn : n < 256 ^ k) (h : bigEndian m k = bigEndian n k) :
    m = n := by
  have hread := congrArg (readBigEndian · 0) h
  simp only [readBigEndian_bigEndian] at hread
  rwa [Nat.mod_eq_of_lt hm, Nat.mod_eq_of_lt hn, Nat.add_left_cancel_iff] at hread

theorem bigEndian_peel (hm : m < 256 ^ k) (hn : n < 256 ^ k)
    (h : bigEndian m k ++ r = bigEndian n k ++ r') : m = n ∧ r = r' := by
  obtain ⟨hbytes, hrest⟩ := List.append_inj h (by rw [length_bigEndian, length_bigEndian])
  exact ⟨bigEndian_inj hm hn hbytes, hrest⟩

def prefixed (width : Nat) (value : GoString) : GoString := bigEndian value.length width ++ value

theorem prefixed_peel {width : Nat} {v w : GoString} (hv : v.length < 256 ^ width)
    (hw : w.length < 256 ^ width) (h : prefixed width v ++ r = prefixed width w ++ r') :
    v = w ∧ r = r' := by
  rw [prefixed, prefixed, List.append_assoc, List.append_assoc] at h
  obtain ⟨hlength, hrest⟩ := bigEndian_peel hv hw h
  exact List.append_inj hrest hlength

end Framing

namespace Reading
open Checks

variable {σ β ε : Type}

structure Reader (σ β ε : Type) where
  step : σ → List β → Except ε (σ × List β)
  consumes : ∀ s input s' rest, step s input = .ok (s', rest) → rest.length < input.length

namespace Reader

variable {r : Reader σ β ε} {s t : σ} {input : List β}

def run (r : Reader σ β ε) (s : σ) (input : List β) : Except ε σ :=
  if input = [] then .ok s
  else
    match h : r.step s input with
    | .error error => .error error
    | .ok (s', rest) =>
      have : rest.length < input.length := r.consumes s input s' rest h
      r.run s' rest
termination_by input.length

theorem run_nil : r.run s [] = .ok s := by rw [run, if_pos rfl]

theorem run_step (hinput : input ≠ []) :
    r.run s input = r.step s input >>= fun (s', rest) => r.run s' rest := by
  rw [run, if_neg hinput]
  split
  · next error hstep =>
    rw [hstep]
    rfl
  · next s' rest hstep =>
    dsimp only
    rw [hstep]
    rfl

theorem run_ok : r.run s input = .ok t ↔ (input = [] ∧ s = t) ∨
    ∃ s' rest, r.step s input = .ok (s', rest) ∧ r.run s' rest = .ok t := by
  by_cases hinput : input = []
  · subst hinput
    have hstuck : ∀ s' rest, r.step s [] ≠ .ok (s', rest) :=
      fun s' rest hstep => Nat.not_lt_zero _ (r.consumes s [] s' rest hstep)
    simp [run_nil, hstuck]
  · rw [run_step hinput, bind_ok]
    simp [hinput]

end Reader

end Reading

namespace Streams
open Checks

variable {ε α β γ : Type} {wait : ε}

def Extends (wait : ε) (x y : Except ε α) : Prop := x = .error wait ∨ y = x

theorem extends_refl (x : Except ε α) : Extends wait x x := .inr rfl

variable {x y : Except ε α}

theorem extends_bind {f g : α → Except ε β} (h : Extends wait x y)
    (hf : ∀ a, x = .ok a → Extends wait (f a) (g a)) : Extends wait (x >>= f) (y >>= g) := by
  rcases h with rfl | rfl
  · exact .inl rfl
  · cases hx : y with
    | error error => exact .inr rfl
    | ok a => exact hf a hx

variable {xs : List γ}

theorem extends_demand (ys : List γ) {n : Nat} (h : n ≤ xs.length → Extends wait x y) :
    Extends wait (require (n ≤ xs.length) wait >>= fun _ => x)
      (require (n ≤ (xs ++ ys).length) wait >>= fun _ => y) := by
  by_cases hn : n ≤ xs.length
  · have hmore : n ≤ (xs ++ ys).length := by
      rw [List.length_append]
      exact Nat.le_trans hn (Nat.le_add_right _ _)
    rw [require_of hn, require_of hmore]
    exact h hn
  · refine .inl ?_
    rw [bind_error, require_error]
    exact .inl ⟨hn, rfl⟩

theorem slice_append (ys : List γ) {start count : Nat} (h : start + count ≤ xs.length) :
    ((xs ++ ys).drop start).take count = (xs.drop start).take count := by
  rw [List.drop_append_of_le_length (by omega), List.take_append_of_le_length]
  rw [List.length_drop]
  omega

theorem slice_middle (xs ys zs : List γ) :
    ((xs ++ ys ++ zs).drop xs.length).take ys.length = ys := by
  rw [List.append_assoc, List.drop_left, List.take_left]

end Streams
