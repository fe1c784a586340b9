import TrillionniumGame.TokenCore.Policy

namespace TokenCore
open Checks FiniteMap Persistence Runs

namespace KeyRing

variable {ring ring' : KeyRing} {key held : KeyDescriptor} {role : KeyRole} {epoch : UInt64}

theorem ext_keys (h : ring.keys = ring'.keys) : ring = ring' := by
  cases ring
  cases ring'
  cases h
  rfl

def inserts : System KeyRing KeyDescriptor where
  init ring := ring = .default
  step ring key ring' := (ring.insert key).2 = ring'

structure Admits (ring : KeyRing) (key : KeyDescriptor) : Prop where
  room : ring.keys.keys.card < maxKeys
  valid : key.Valid

def Atomic (ring : KeyRing) (key : KeyDescriptor) : Prop :=
  ∀ error, (ring.insert key).1 = .error error → (ring.insert key).2 = ring

def Displaces (ring : KeyRing) (key : KeyDescriptor) : Prop :=
  ring.Admits key ∧ ∃ held, ring.get key.role key.epoch = some held ∧ held ≠ key

def sparing : System KeyRing KeyDescriptor where
  init ring := ring = .default
  step ring key ring' := ¬ ring.Displaces key ∧ (ring.insert key).2 = ring'

theorem insert_refused (h : ¬ ring.Admits key) : (ring.insert key).2 = ring := by
  rw [insert]
  split
  · rfl
  · next hroom =>
    split
    · next hvalid => exact absurd ⟨not_le.mp hroom, hvalid⟩ h
    · rfl

theorem insert_admitted (h : ring.Admits key) :
    (ring.insert key).2.keys = ring.keys.insert key.index key ∧
      ((∃ error, (ring.insert key).1 = .error error) ↔ key.index ∈ ring.keys) := by
  rw [insert, dif_neg (not_le.mpr h.room), dif_pos h.valid]
  refine ⟨rfl, ?_⟩
  dsimp only
  split
  · next hheld => exact iff_of_true ⟨_, rfl⟩ hheld
  · next hfree => exact iff_of_false (fun ⟨_, herror⟩ => nomatch herror) hfree

theorem insert_get (ring : KeyRing) (key : KeyDescriptor) (role : KeyRole) (epoch : UInt64) :
    (ring.insert key).2.get role epoch = ring.get role epoch ∨
      ring.Admits key ∧ key.role = role ∧ key.epoch = epoch ∧
        (ring.insert key).2.get role epoch = some key := by
  by_cases hadmits : ring.Admits key
  · have hlookup := lookup_insert_ite ring.keys key.index ⟨role, epoch⟩ key
    rw [← (insert_admitted hadmits).1] at hlookup
    split at hlookup
    · next hindex =>
      cases hindex
      exact .inr ⟨hadmits, rfl, rfl, hlookup⟩
    · exact .inl hlookup
  · exact .inl (by rw [insert_refused hadmits])

theorem atomic_iff : ring.Atomic key ↔ ¬ ring.Displaces key := by
  constructor
  · rintro hatomic ⟨hadmits, held, hheld, hother⟩
    obtain ⟨hkeys, herror⟩ := insert_admitted hadmits
    obtain ⟨error, hfails⟩ := herror.mpr (Finmap.mem_of_lookup_eq_some hheld)
    have hkept := hatomic error hfails
    rw [hkept] at hkeys
    have hlookup := Finmap.lookup_insert (a := key.index) (b := key) ring.keys
    rw [← hkeys] at hlookup
    exact hother (Option.mem_unique hheld hlookup)
  · intro hsafe error hfails
    by_cases hadmits : ring.Admits key
    · obtain ⟨hkeys, herror⟩ := insert_admitted hadmits
      obtain ⟨held, hheld⟩ := Finmap.mem_iff.mp (herror.mp ⟨error, hfails⟩)
      have hsame : held = key := by
        by_contra hother
        exact hsafe ⟨hadmits, held, hheld, hother⟩
      subst hsame
      refine ext_keys (hkeys.trans ?_)
      refine Finmap.ext_lookup fun index => ?_
      rw [lookup_insert_ite]
      split
      · next hindex => rw [hindex, hheld]
      · rfl
    · exact insert_refused hadmits

theorem keeps_held (hsafe : ¬ ring.Displaces key) (hheld : ring.get role epoch = some held) :
    (ring.insert key).2.get role epoch = some held := by
  rcases insert_get ring key role epoch with hsame | ⟨hadmits, rfl, rfl, hnew⟩
  · exact hsame.trans hheld
  · have hequal : held = key := by
      by_contra hother
      exact hsafe ⟨hadmits, held, hheld, hother⟩
    rw [hnew, hequal]

theorem held_forever {keys : List KeyDescriptor} (hrun : Run sparing ring keys ring') :
    ∀ role epoch held, ring.get role epoch = some held → ring'.get role epoch = some held := by
  induction hrun with
  | nil => exact fun _ _ _ h => h
  | snoc hrun hstep ih =>
    obtain ⟨hsafe, rfl⟩ := hstep
    exact fun role epoch held h => keeps_held hsafe (ih role epoch held h)

theorem insert_atomic (_ : Reachable inserts ring) :
    (∀ key, ring.Atomic key ↔ ¬ ring.Displaces key) ∧
    (∀ keys ring', Run sparing ring keys ring' → ∀ role epoch held,
      ring.get role epoch = some held → ring'.get role epoch = some held) :=
  ⟨fun _ => atomic_iff, fun _ _ => held_forever⟩

def sampleKey (status : KeyStatus) : KeyDescriptor :=
  ⟨.access, 1, status, 0, 10, ⟨.replicate 32 7⟩⟩

def sampleRing : KeyRing := (KeyRing.default.insert (sampleKey .active)).2

theorem sampleRing_reachable : Reachable inserts sampleRing :=
  (Reachable.start (S := inserts) rfl).run (.single rfl)

theorem sampleRing_get : sampleRing.get .access 1 = some (sampleKey .active) := rfl

theorem insert_atomic_sample :
    sampleRing.Atomic (sampleKey .active) ∧
    (sampleRing.insert (sampleKey .active)).2.get .access 1 = some (sampleKey .active) := by
  obtain ⟨hatomic, hheld⟩ := insert_atomic sampleRing_reachable
  have hsafe : ¬ sampleRing.Displaces (sampleKey .active) := by
    rintro ⟨-, held, hfound, hother⟩
    exact hother (Option.mem_unique hfound sampleRing_get)
  refine ⟨(hatomic _).mpr hsafe, ?_⟩
  exact hheld [sampleKey .active] _ (.single ⟨hsafe, rfl⟩) .access 1 _ sampleRing_get

theorem insert_replaces_on_error :
    Reachable inserts sampleRing ∧ sampleRing.get .access 1 = some (sampleKey .active) ∧
    (sampleRing.insert (sampleKey .verifyOnly)).1 =
      .error ⟨.alreadyExists, "token_key_epoch_exists", .never⟩ ∧
    (sampleRing.insert (sampleKey .verifyOnly)).2.get .access 1 = some (sampleKey .verifyOnly) ∧
    ¬ sampleRing.Atomic (sampleKey .verifyOnly) := by
  have hreplaced : (sampleRing.insert (sampleKey .verifyOnly)).2.get .access 1 =
      some (sampleKey .verifyOnly) := rfl
  refine ⟨sampleRing_reachable, sampleRing_get, rfl, hreplaced, fun hatomic => ?_⟩
  rw [hatomic _ rfl, sampleRing_get] at hreplaced
  exact absurd hreplaced (by decide)

end KeyRing

end TokenCore
