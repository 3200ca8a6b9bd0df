import Mathlib.Data.List.Basic
import Mathlib.Data.List.Forall2
import Mathlib.Data.List.Induction
import Mathlib.Data.List.Nodup
import Mathlib.Data.List.Pairwise

/-!
# Support — Grouping

Collecting a list into the groups of a dictionary of lists, in the order in which their keys
first occur.  Keys are compared by a Boolean relation, which need not be `=`.

A group is never empty: it is its key, its first item and the rest.  The groups hold the items
of the list, each once (`groupOn_perm`); a group's items have its key (`same_of_mem`), and items
of one key share a group (`mem_members_of_same`).  An item whose key nothing else has adds a
group of its own and changes no other (`groupOn_insert`); some of the items, if they are all those
of their keys, have the groups that they have among all (`groupOn_filter`).
-/

namespace Support

/-- A nonempty group of items under a key. -/
structure Group (κ α : Type*) where
  key : κ
  first : α
  rest : List α

namespace Group

variable {κ α : Type*}

/-- The items of the group, in order. -/
def members (g : Group κ α) : List α := g.first :: g.rest

/-- The group with one more item at its end. -/
def push (g : Group κ α) (x : α) : Group κ α := { g with rest := g.rest ++ [x] }

@[simp] theorem members_push (g : Group κ α) (x : α) : (g.push x).members = g.members ++ [x] :=
  rfl

@[simp] theorem key_push (g : Group κ α) (x : α) : (g.push x).key = g.key := rfl

theorem first_mem (g : Group κ α) : g.first ∈ g.members := List.mem_cons_self

/-- A group with two different items has at least two. -/
theorem two_le_length {g : Group κ α} {x y : α} (hx : x ∈ g.members) (hy : y ∈ g.members)
    (hne : x ≠ y) : 2 ≤ g.members.length := by
  obtain ⟨key, first, rest⟩ := g
  cases rest with
  | nil => exact absurd ((List.mem_singleton.mp hx).trans (List.mem_singleton.mp hy).symm) hne
  | cons second rest => exact Nat.le_add_left 2 rest.length

end Group

variable {κ α : Type*} (same : κ → κ → Bool)

/-- `groups[k].append(x)`, on a dictionary that starts a missing key with an empty list. -/
def insertInto (k : κ) (x : α) : List (Group κ α) → List (Group κ α)
  | [] => [⟨k, x, []⟩]
  | g :: gs => if same g.key k then g.push x :: gs else g :: insertInto k x gs

/-- The groups of a list under `key`. -/
def groupOn (key : α → κ) (l : List α) : List (Group κ α) :=
  l.foldl (fun gs x => insertInto same (key x) x gs) []

variable {same}

/-! ### The items of the groups -/

theorem insertInto_perm (k : κ) (x : α) (gs : List (Group κ α)) :
    ((insertInto same k x gs).flatMap Group.members).Perm (x :: gs.flatMap Group.members) := by
  induction gs with
  | nil => simp [insertInto, Group.members]
  | cons g gs ih =>
      by_cases h : same g.key k
      · simp only [insertInto, h, if_true, List.flatMap_cons, Group.members_push,
          List.append_assoc, List.singleton_append]
        exact List.perm_middle
      · simp only [insertInto, h, Bool.false_eq_true, if_false, List.flatMap_cons]
        exact (List.Perm.append_left _ ih).trans List.perm_middle

theorem foldl_insertInto_perm (same : κ → κ → Bool) (key : α → κ) (l : List α)
    (gs : List (Group κ α)) :
    ((l.foldl (fun gs x => insertInto same (key x) x gs) gs).flatMap Group.members).Perm
      (l ++ gs.flatMap Group.members) := by
  induction l generalizing gs with
  | nil => rfl
  | cons x l ih =>
      refine (ih _).trans ?_
      refine (List.Perm.append_left l (insertInto_perm (key x) x gs)).trans ?_
      exact List.perm_middle

/-- **The groups hold every item of the list, each once.** -/
theorem groupOn_perm (same : κ → κ → Bool) (key : α → κ) (l : List α) :
    ((groupOn same key l).flatMap Group.members).Perm l := by
  simpa [groupOn] using foldl_insertInto_perm same key l []

theorem mem_of_mem_members {key : α → κ} {l : List α} {g : Group κ α} {x : α}
    (hg : g ∈ groupOn same key l) (hx : x ∈ g.members) : x ∈ l :=
  (groupOn_perm same key l).mem_iff.mp (List.mem_flatMap.mpr ⟨g, hg, hx⟩)

theorem exists_group (same : κ → κ → Bool) (key : α → κ) {l : List α} {x : α} (hx : x ∈ l) :
    ∃ g ∈ groupOn same key l, x ∈ g.members :=
  List.mem_flatMap.mp ((groupOn_perm same key l).mem_iff.mpr hx)

/-- The first items of the groups are among their items, in order. -/
theorem firsts_sublist (gs : List (Group κ α)) :
    (gs.map Group.first).Sublist (gs.flatMap Group.members) := by
  induction gs with
  | nil => exact .slnil
  | cons g gs ih =>
      rw [List.map_cons, List.flatMap_cons, Group.members, List.cons_append]
      exact (ih.trans (List.sublist_append_right _ _)).cons_cons _

/-! ### The keys of the groups -/

/-- Every item of every group has the group's key, which is the key of its first item; no two
groups have the same key. -/
structure Keyed (same : κ → κ → Bool) (key : α → κ) (gs : List (Group κ α)) : Prop where
  members : ∀ g ∈ gs, ∀ x ∈ g.members, same g.key (key x) = true
  first : ∀ g ∈ gs, g.key = key g.first
  apart : gs.Pairwise fun g h => same g.key h.key = false

theorem mem_insertInto {k : κ} {x : α} {gs : List (Group κ α)} {h : Group κ α}
    (hh : h ∈ insertInto same k x gs) :
    h ∈ gs ∨ h = ⟨k, x, []⟩ ∨ ∃ g ∈ gs, same g.key k = true ∧ h = g.push x := by
  induction gs with
  | nil => exact .inr (.inl (List.mem_singleton.mp hh))
  | cons g gs ih =>
      by_cases hk : same g.key k
      · rw [insertInto, if_pos hk] at hh
        rcases List.mem_cons.mp hh with rfl | hh
        · exact .inr (.inr ⟨g, List.mem_cons_self, hk, rfl⟩)
        · exact .inl (List.mem_cons_of_mem _ hh)
      · rw [insertInto, if_neg hk] at hh
        rcases List.mem_cons.mp hh with rfl | hh
        · exact .inl List.mem_cons_self
        · rcases ih hh with h' | h' | ⟨g', hg', h'⟩
          · exact .inl (List.mem_cons_of_mem _ h')
          · exact .inr (.inl h')
          · exact .inr (.inr ⟨g', List.mem_cons_of_mem _ hg', h'⟩)

theorem insertInto_apart {k : κ} (x : α) {gs : List (Group κ α)}
    (h : gs.Pairwise fun g h => same g.key h.key = false) :
    (insertInto same k x gs).Pairwise fun g h => same g.key h.key = false := by
  induction gs with
  | nil => exact List.pairwise_singleton _ _
  | cons g gs ih =>
      rw [List.pairwise_cons] at h
      by_cases hk : same g.key k
      · rw [insertInto, if_pos hk]
        exact List.pairwise_cons.mpr ⟨h.1, h.2⟩
      · rw [insertInto, if_neg hk]
        refine List.pairwise_cons.mpr ⟨fun h' hh' => ?_, ih h.2⟩
        rcases mem_insertInto hh' with hh' | rfl | ⟨g', hg', -, rfl⟩
        · exact h.1 h' hh'
        · exact Bool.eq_false_iff.mpr hk
        · exact h.1 g' hg'

theorem Keyed.insertInto {key : α → κ} (hrefl : ∀ k, same k k = true) {gs : List (Group κ α)}
    (h : Keyed same key gs) (x : α) : Keyed same key (insertInto same (key x) x gs) where
  members g hg y hy := by
    rcases mem_insertInto hg with hg | rfl | ⟨g', hg', hk, rfl⟩
    · exact h.members g hg y hy
    · rw [List.mem_singleton.mp hy]
      exact hrefl _
    · rw [Group.members_push] at hy
      rcases List.mem_append.mp hy with hy | hy
      · exact h.members g' hg' y hy
      · rw [List.mem_singleton.mp hy]
        exact hk
  first g hg := by
    rcases mem_insertInto hg with hg | rfl | ⟨g', hg', -, rfl⟩
    · exact h.first g hg
    · rfl
    · exact h.first g' hg'
  apart := insertInto_apart x h.apart

theorem keyed_groupOn (key : α → κ) (hrefl : ∀ k, same k k = true) (l : List α) :
    Keyed same key (groupOn same key l) := by
  refine List.foldlRecOn l _ ⟨?_, ?_, List.Pairwise.nil⟩ fun gs h x _ => h.insertInto hrefl x
  · exact fun g hg => absurd hg List.not_mem_nil
  · exact fun g hg => absurd hg List.not_mem_nil

theorem same_of_mem {key : α → κ} (hrefl : ∀ k, same k k = true) {l : List α} {g : Group κ α}
    (hg : g ∈ groupOn same key l) {x : α} (hx : x ∈ g.members) : same g.key (key x) = true :=
  (keyed_groupOn key hrefl l).members g hg x hx

/-- **Items with the same key share a group.** -/
theorem mem_members_of_same {key : α → κ} (hrefl : ∀ k, same k k = true)
    (hsymm : ∀ a b, same a b = same b a)
    (htrans : ∀ a b c, same a b = true → same b c = true → same a c = true)
    {l : List α} {g : Group κ α} (hg : g ∈ groupOn same key l) {x y : α} (hx : x ∈ g.members)
    (hy : y ∈ l) (hxy : same (key x) (key y) = true) : y ∈ g.members := by
  obtain ⟨h, hh, hyh⟩ := exists_group same key hy
  have hkeyed := keyed_groupOn key hrefl l
  have hgh : same g.key h.key = true := by
    refine htrans _ _ _ (hkeyed.members g hg x hx) (htrans _ _ _ hxy ?_)
    rw [hsymm]
    exact hkeyed.members h hh y hyh
  -- two different groups have keys apart, in whichever order they stand
  by_contra hne
  have hgne : g ≠ h := fun e => hne (e ▸ hyh)
  have hapart : (groupOn same key l).Pairwise fun a b => same a.key b.key = false :=
    hkeyed.apart
  have : Std.Symm fun a b : Group κ α => same a.key b.key = false :=
    ⟨fun _ _ hab => (hsymm _ _).trans hab⟩
  have hfalse := hapart.forall hg hh hgne
  rw [hgh] at hfalse
  exact Bool.noConfusion hfalse

/-! ### Groups by equal keys -/

section Equal

variable {κ : Type*} [BEq κ] [LawfulBEq κ]

/-- What an item that is added makes of the groups: one more group, if its key is new, or one more
item in the group of its key. -/
theorem mem_insertInto_of_apart {k : κ} {x : α} {gs : List (Group κ α)}
    (hapart : gs.Pairwise fun g h => (g.key == h.key) = false) {h : Group κ α}
    (hh : h ∈ insertInto (· == ·) k x gs) :
    (h ∈ gs ∧ h.key ≠ k) ∨ (h = ⟨k, x, []⟩ ∧ ∀ g ∈ gs, g.key ≠ k) ∨
      ∃ g ∈ gs, g.key = k ∧ h = g.push x := by
  induction gs with
  | nil => exact .inr (.inl ⟨List.mem_singleton.mp hh, fun g hg => absurd hg List.not_mem_nil⟩)
  | cons g gs ih =>
      rw [List.pairwise_cons] at hapart
      by_cases hk : g.key = k
      · rw [insertInto, if_pos (beq_iff_eq.mpr hk)] at hh
        rcases List.mem_cons.mp hh with rfl | hh
        · exact .inr (.inr ⟨g, List.mem_cons_self, hk, rfl⟩)
        · refine .inl ⟨List.mem_cons_of_mem _ hh, fun heq => ?_⟩
          exact beq_eq_false_iff_ne.mp (hapart.1 h hh) (hk.trans heq.symm)
      · rw [insertInto, if_neg (mt beq_iff_eq.mp hk)] at hh
        rcases List.mem_cons.mp hh with rfl | hh
        · exact .inl ⟨List.mem_cons_self, hk⟩
        · rcases ih hapart.2 hh with ⟨hin, hne⟩ | ⟨rfl, hnew⟩ | ⟨g', hg', h'⟩
          · exact .inl ⟨List.mem_cons_of_mem _ hin, hne⟩
          · exact .inr (.inl ⟨rfl, List.forall_mem_cons.mpr ⟨hk, hnew⟩⟩)
          · exact .inr (.inr ⟨g', List.mem_cons_of_mem _ hg', h'⟩)

/-- **A group holds the items of its key, in order.** -/
theorem members_eq_filter {key : α → κ} {l : List α} {g : Group κ α}
    (hg : g ∈ groupOn (· == ·) key l) : g.members = l.filter fun x => key x == g.key := by
  induction l using List.reverseRecOn generalizing g with
  | nil => exact absurd hg List.not_mem_nil
  | append_singleton l x ih =>
      have hkeyed : Keyed (· == ·) key (groupOn (· == ·) key l) :=
        keyed_groupOn key beq_self_eq_true l
      rw [groupOn, List.foldl_append] at hg
      rw [List.filter_append]
      rcases mem_insertInto_of_apart hkeyed.apart hg with ⟨hin, hne⟩ | ⟨rfl, hnew⟩ | ⟨h, hh, hk, rfl⟩
      · rw [ih hin, List.filter_singleton, beq_eq_false_iff_ne.mpr hne.symm]
        exact (List.append_nil _).symm
      · have hnone : (l.filter fun y => key y == key x) = [] := by
          refine List.filter_eq_nil_iff.mpr fun y hy hkey => ?_
          obtain ⟨h, hh, hyh⟩ := exists_group (· == ·) key hy
          have hky : h.key = key y := eq_of_beq (hkeyed.members h hh y hyh)
          exact hnew h hh (hky.trans (eq_of_beq hkey))
        rw [List.filter_singleton, beq_self_eq_true, hnone]
        rfl
      · rw [Group.members_push, Group.key_push, ih hh, List.filter_singleton, hk, beq_self_eq_true]
        rfl

end Equal

/-! ### Lists side by side -/

/-- Groups of one key whose items are related one by one. -/
structure Group.Similar {β : Type*} (R : α → β → Prop) (g : Group κ α) (h : Group κ β) : Prop where
  key : g.key = h.key
  members : List.Forall₂ R g.members h.members

section Similar

variable {β : Type*} {R : α → β → Prop} {keyOf : α → κ} {keyOf' : β → κ}

theorem Group.Similar.first {g : Group κ α} {h : Group κ β} (hgh : g.Similar R h) :
    R g.first h.first :=
  (List.forall₂_cons.mp hgh.members).1

theorem insertInto_similar {k : κ} {x : α} {y : β} (hxy : R x y) {gs : List (Group κ α)}
    {hs : List (Group κ β)} (h : List.Forall₂ (Group.Similar R) gs hs) :
    List.Forall₂ (Group.Similar R) (insertInto same k x gs) (insertInto same k y hs) := by
  induction h with
  | nil => exact .cons ⟨rfl, .cons hxy .nil⟩ .nil
  | @cons g h gs hs hgh hrest ih =>
      rw [insertInto, insertInto, ← hgh.key]
      split
      · refine .cons ⟨hgh.key, ?_⟩ hrest
        exact List.rel_append hgh.members (.cons hxy .nil)
      · exact .cons hgh ih

/-- Lists of related items with the same keys have similar groups. -/
theorem groupOn_similar (hkey : ∀ x y, R x y → keyOf x = keyOf' y) {xs : List α} {ys : List β}
    (h : List.Forall₂ R xs ys) :
    List.Forall₂ (Group.Similar R) (groupOn same keyOf xs) (groupOn same keyOf' ys) := by
  refine List.rel_foldl (P := List.Forall₂ (Group.Similar R)) (R := R) ?_ .nil h
  intro gs hs hgs x y hxy
  simp only [hkey x y hxy]
  exact insertInto_similar hxy hgs

end Similar

/-! ### One more item of a fresh key -/

/-- An item whose key no group has starts a group at the end. -/
theorem insertInto_fresh {k : κ} {x : α} {gs : List (Group κ α)}
    (h : ∀ g ∈ gs, same g.key k = false) : insertInto same k x gs = gs ++ [⟨k, x, []⟩] := by
  induction gs with
  | nil => rfl
  | cons g gs ih =>
      have hg : ¬ same g.key k = true := by simp [h g List.mem_cons_self]
      rw [insertInto, if_neg hg, ih fun g' hg' => h g' (List.mem_cons_of_mem _ hg')]
      rfl

/-- Adding to a dictionary passes over a group of another key. -/
theorem insertInto_skip {k : κ} {x : α} {s : Group κ α} (hs : same s.key k = false)
    (a b : List (Group κ α)) :
    ∃ a' b', insertInto same k x (a ++ b) = a' ++ b' ∧
      insertInto same k x (a ++ s :: b) = a' ++ s :: b' := by
  induction a with
  | nil =>
      refine ⟨[], insertInto same k x b, rfl, ?_⟩
      rw [List.nil_append, insertInto, if_neg (by simp [hs])]
      rfl
  | cons g a ih =>
      by_cases hk : same g.key k
      · refine ⟨g.push x :: a, b, ?_, ?_⟩ <;>
          rw [List.cons_append, insertInto, if_pos hk] <;> rfl
      · obtain ⟨a', b', h₁, h₂⟩ := ih
        refine ⟨g :: a', b', ?_, ?_⟩
        · rw [List.cons_append, insertInto, if_neg hk, h₁]; rfl
        · rw [List.cons_append, insertInto, if_neg hk, h₂]; rfl

/-- **An item of a fresh key adds a group of its own and changes no other.** -/
theorem groupOn_insert {key : α → κ} {x : α} {pre post : List α}
    (hpre : ∀ y ∈ pre, same (key y) (key x) = false)
    (hpost : ∀ y ∈ post, same (key x) (key y) = false) (hrefl : ∀ k, same k k = true) :
    ∃ a b, groupOn same key (pre ++ post) = a ++ b ∧
      groupOn same key (pre ++ x :: post) = a ++ ⟨key x, x, []⟩ :: b := by
  have hstart : ∃ a b, groupOn same key pre = a ++ b ∧
      insertInto same (key x) x (groupOn same key pre) = a ++ ⟨key x, x, []⟩ :: b := by
    refine ⟨groupOn same key pre, [], (List.append_nil _).symm, insertInto_fresh fun g hg => ?_⟩
    rw [(keyed_groupOn key hrefl pre).first g hg]
    exact hpre _ (mem_of_mem_members hg g.first_mem)
  have hrun : ∀ (post : List α) (gs gs' : List (Group κ α)),
      (∀ y ∈ post, same (key x) (key y) = false) →
      (∃ a b, gs = a ++ b ∧ gs' = a ++ ⟨key x, x, []⟩ :: b) →
      ∃ a b, post.foldl (fun gs x => insertInto same (key x) x gs) gs = a ++ b ∧
        post.foldl (fun gs x => insertInto same (key x) x gs) gs' =
          a ++ ⟨key x, x, []⟩ :: b := by
    intro post
    induction post with
    | nil => exact fun _ _ _ h => h
    | cons y post ih =>
        rintro gs gs' hy ⟨a, b, rfl, rfl⟩
        refine ih _ _ (fun z hz => hy z (List.mem_cons_of_mem _ hz)) ?_
        exact @insertInto_skip _ _ _ _ _ ⟨key x, x, []⟩ (hy y List.mem_cons_self) a b
  obtain ⟨a, b, h₁, h₂⟩ := hrun post _ _ hpost hstart
  refine ⟨a, b, ?_, ?_⟩
  · rw [groupOn, List.foldl_append]; exact h₁
  · rw [groupOn, List.foldl_append]; exact h₂

/-! ### Some of the groups -/

/-- An item goes to the groups that `q` selects if `q` selects it, and elsewhere if not. -/
theorem filter_insertInto {q : α → Bool} {k : κ} {x : α} {gs : List (Group κ α)}
    (h : ∀ g ∈ gs, same g.key k = true → q g.first = q x) :
    (insertInto same k x gs).filter (fun g => q g.first) =
      if q x = true then insertInto same k x (gs.filter fun g => q g.first)
      else gs.filter fun g => q g.first := by
  induction gs with
  | nil => cases hq : q x <;> simp [insertInto, hq]
  | cons g gs ih =>
      obtain ⟨hg, hgs⟩ := List.forall_mem_cons.mp h
      by_cases hk : same g.key k = true
      · have hfirst : q (g.push x).first = q x := hg hk
        have hfirst' : q g.first = q x := hg hk
        cases hq : q x <;> simp [insertInto, hk, hq, hfirst, hfirst']
      · rw [insertInto, if_neg hk, List.filter_cons, ih hgs, List.filter_cons]
        cases hq : q x <;> cases hf : q g.first <;> simp [insertInto, hk]

/-- **Grouping some of the items gives the groups of these items**, if items of one key go
together. -/
theorem groupOn_filter {key : α → κ} (hrefl : ∀ k, same k k = true) {q : α → Bool} {l : List α}
    (h : ∀ x ∈ l, ∀ y ∈ l, same (key x) (key y) = true → q x = q y) :
    groupOn same key (l.filter q) = (groupOn same key l).filter fun g => q g.first := by
  induction l using List.reverseRecOn with
  | nil => rfl
  | append_singleton l x ih =>
      have hl : ∀ y ∈ l, ∀ z ∈ l, same (key y) (key z) = true → q y = q z := fun y hy z hz =>
        h y (List.mem_append_left _ hy) z (List.mem_append_left _ hz)
      have hgroups : groupOn same key (l ++ [x]) = insertInto same (key x) x (groupOn same key l) := by
        rw [groupOn, List.foldl_append]
        rfl
      rw [hgroups, filter_insertInto fun g hg hk => ?_]
      · rw [List.filter_append, List.filter_singleton, ← ih hl]
        cases hq : q x with
        | false => simp
        | true => simp [groupOn, List.foldl_append]
      · rw [(keyed_groupOn key hrefl l).first g hg] at hk
        exact h _ (List.mem_append_left _ (mem_of_mem_members hg g.first_mem)) x
          (List.mem_append_right _ (List.mem_singleton_self x)) hk

end Support
