import Mathlib.Data.Nat.Basic
import Mathlib.Order.Basic

/-!
# Caches checked by a version number

A content carries a version, and a cache keeps what was rendered from it with
the version it had then. A reader trusts the cache while the versions agree.
That is sound as long as no change of the content goes without a new version.
-/
namespace Sipmon.Lib.VersionedCache

variable {α β : Type*}

/-- A content that has a new version or is the same. -/
def Moved (before after : Nat × α) : Prop := before.1 < after.1 ∨ after = before

theorem Moved.trans {a b c : Nat × α} (first : Moved a b) (second : Moved b c) : Moved a c := by
  obtain newer | rfl := first
  · obtain newer' | rfl := second
    · exact .inl (newer.trans newer')
    · exact .inl newer
  · exact second

/-- A read: the cached value while its version is current, else a fresh one. -/
def read (render : α → β) (cache : Option (Nat × β)) (now : Nat × α) : β × Option (Nat × β) :=
  match cache with
  | some (version, kept) => if version = now.1 then (kept, cache)
      else (render now.2, some (now.1, render now.2))
  | none => (render now.2, some (now.1, render now.2))

/-- A second read of the same content finds what the first one left. -/
theorem read_again (render : α → β) (cache : Option (Nat × β)) (now : Nat × α) :
    read render (read render cache now).2 now = read render cache now := by
  cases cache with
  | none => simp [read]
  | some entry =>
    by_cases current : entry.1 = now.1
    · simp [read, current]
    · simp [read, current]

/-- A cache that shows the content whenever a reader would trust it. -/
def Valid (shows : β → α → Prop) (cache : Option (Nat × β)) (now : Nat × α) : Prop :=
  ∀ version kept, cache = some (version, kept) →
    version ≤ now.1 ∧ (version = now.1 → shows kept now.2)

variable {shows : β → α → Prop} {cache : Option (Nat × β)}

theorem Valid.empty (now : Nat × α) : Valid shows none now := fun _ _ held => nomatch held

theorem Valid.moved {before after : Nat × α} (valid : Valid shows cache before)
    (moved : Moved before after) : Valid shows cache after := by
  obtain newer | rfl := moved
  · intro version kept held
    have older := (valid version kept held).1
    exact ⟨older.trans newer.le, fun current => absurd (current ▸ newer) (Nat.not_lt.mpr older)⟩
  · exact valid

/-- What a read returns shows the content, and what it leaves is valid. -/
theorem valid_read {render : α → β} (sound : ∀ a, shows (render a) a) {now : Nat × α}
    (valid : Valid shows cache now) :
    shows (read render cache now).1 now.2 ∧ Valid shows (read render cache now).2 now := by
  have fresh : Valid shows (some (now.1, render now.2)) now := by
    rintro version kept held
    obtain ⟨rfl, rfl⟩ := Prod.mk.inj (Option.some.inj held)
    exact ⟨Nat.le_refl _, fun _ => sound now.2⟩
  unfold read
  split
  · next version kept =>
    split
    · next current => exact ⟨(valid version kept rfl).2 current, valid⟩
    · exact ⟨sound now.2, fresh⟩
  · exact ⟨sound now.2, fresh⟩

/-- What a read returns or leaves was rendered now or cached before. -/
theorem read_or_cached (render : α → β) (now : Nat × α) {P : β → Prop} (fresh : P (render now.2))
    (cached : ∀ entry ∈ cache, P entry.2) :
    P (read render cache now).1 ∧ ∀ entry ∈ (read render cache now).2, P entry.2 := by
  have renewed : ∀ entry ∈ some (now.1, render now.2), P entry.2 := by
    intro entry made
    obtain rfl := Option.some.inj made
    exact fresh
  unfold read
  split
  · next version kept =>
    split
    · exact ⟨cached (version, kept) rfl, cached⟩
    · exact ⟨fresh, renewed⟩
  · exact ⟨fresh, renewed⟩

/-- A reader sees the cached value exactly when the cache holds the current version. -/
theorem read_current (render : α → β) (now : Nat × α) {kept : β} (held : cache = some (now.1, kept)) :
    (read render cache now).1 = kept := by
  rw [held, read, if_pos rfl]

/-- A change without a new version keeps a valid cache valid exactly when what a
reader would trust still shows the content. -/
theorem Valid.silent_iff {version : Nat} (before after : α) (valid : Valid shows cache (version, before)) :
    Valid shows cache (version, after) ↔ ∀ kept, cache = some (version, kept) → shows kept after := by
  constructor
  · exact fun still kept held => (still version kept held).2 rfl
  · intro trusted held kept present
    refine ⟨(valid held kept present).1, ?_⟩
    rintro rfl
    exact trusted kept present

end Sipmon.Lib.VersionedCache
