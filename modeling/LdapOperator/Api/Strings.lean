import Mathlib.Data.List.Basic

/-!
# LDAP operator — Go string primitives

`LDAPDirectory.GetDistinguishedName` turns the domain into a DN suffix with Go's `strings.Split`
and `strings.Join`; every other distinguished name is a plain `+` concatenation. Go strings are
modelled as Lean `String`s. `split` works on the character list, where Mathlib's `List.splitOn`
has the pieces Go's `Split` has for a one-character separator (empty pieces included, and
`Split("", ".") = [""]`); `join` is Go's `Join` clause by clause.

Main results:

* `split_join` — splitting a `sep`-joined list of pieces free of `sep` gives the pieces back.
* `join_eq_intercalate` — Go's `Join` is Lean's `String.intercalate`.
* `prefix_join` — `p + Join(ls, "," + p)` is the list of `p + l`, comma separated.
* `append_sep_inj` — a separator that occurs in neither prefix cuts two concatenations at the
  same place.
-/

namespace LdapOperator.Strings

/-- Go's `strings.Split(s, sep)` for a one-character separator. -/
def split (s : String) (sep : Char) : List String :=
  (s.data.splitOn sep).map String.mk

/-- Go's `strings.Join(elems, sep)`: the elements with `sep` between consecutive ones. -/
def join : List String → String → String
  | [], _ => ""
  | [e], _ => e
  | e :: e' :: es, sep => e ++ sep ++ join (e' :: es) sep

@[simp] theorem join_nil (sep : String) : join [] sep = "" := rfl

@[simp] theorem join_singleton (e sep : String) : join [e] sep = e := rfl

@[simp] theorem join_cons_cons (e e' sep : String) (es : List String) :
    join (e :: e' :: es) sep = e ++ sep ++ join (e' :: es) sep := rfl

/-! ## `Join` against the library functions -/

theorem data_join (ls : List String) (sep : String) :
    (join ls sep).data = sep.data.intercalate (ls.map String.data) := by
  induction ls with
  | nil => rfl
  | cons e es ih =>
    cases es with
    | nil => simp [List.intercalate]
    | cons e' es => simp [ih, List.intercalate, List.intersperse_cons₂]

private theorem intercalate_go (sep : String) :
    ∀ (acc e : String) (es : List String),
      String.intercalate.go acc sep (e :: es) = acc ++ sep ++ join (e :: es) sep
  | acc, e, [] => rfl
  | acc, e, e' :: es => by
    rw [String.intercalate.go, intercalate_go, join_cons_cons]
    simp only [String.append_assoc]

theorem join_eq_intercalate (ls : List String) (sep : String) :
    String.intercalate sep ls = join ls sep := by
  match ls with
  | [] => rfl
  | [e] => rfl
  | e :: e' :: es => rw [String.intercalate, intercalate_go, join_cons_cons]

theorem intercalate_cons {s a : String} {l : List String} (hl : l ≠ []) :
    String.intercalate s (a :: l) = a ++ s ++ String.intercalate s l := by
  obtain ⟨b, l, rfl⟩ := List.exists_cons_of_ne_nil hl
  rw [join_eq_intercalate, join_eq_intercalate, join_cons_cons]

/-- `Split` undoes `Join` on a nonempty list of pieces that do not contain the separator. -/
theorem split_join {ls : List String} {sep : Char} (hls : ls ≠ [])
    (hfree : ∀ l ∈ ls, sep ∉ l.data) : split (join ls ⟨[sep]⟩) sep = ls := by
  have hfree' : ∀ l ∈ ls.map String.data, sep ∉ l := by simpa using hfree
  rw [split, data_join, List.splitOn_intercalate _ sep hfree' (by simpa using hls), List.map_map]
  exact List.map_id ls

/-- Joining with `"," + p` after a leading `p` puts `p` before every element. -/
theorem prefix_join (p : String) :
    ∀ {ls : List String}, ls ≠ [] →
      p ++ join ls ("," ++ p) = String.intercalate "," (ls.map (p ++ ·))
  | [], h => absurd rfl h
  | [l], _ => rfl
  | l :: l' :: ls, _ => by
    have ih := prefix_join p (List.cons_ne_nil l' ls)
    rw [join_eq_intercalate] at ih ⊢
    simp only [List.map_cons, join_cons_cons] at ih ⊢
    rw [← ih]
    simp only [String.append_assoc]

/-! ## Cutting at a separator -/

private theorem append_sep_inj_data {c : Char} :
    ∀ {a b r s : List Char}, c ∉ a → c ∉ b → a ++ c :: r = b ++ c :: s → a = b ∧ r = s
  | [], [], _, _, _, _, h => by simpa using h
  | [], x :: b, _, _, _, hb, h => by
    simp only [List.nil_append, List.cons_append, List.cons.injEq] at h
    exact absurd (h.1 ▸ List.mem_cons_self x b) hb
  | x :: a, [], _, _, ha, _, h => by
    simp only [List.nil_append, List.cons_append, List.cons.injEq] at h
    exact absurd (h.1 ▸ List.mem_cons_self x a) ha
  | x :: a, y :: b, _, _, ha, hb, h => by
    simp only [List.cons_append, List.cons.injEq] at h
    obtain ⟨rfl, h⟩ := h
    obtain ⟨rfl, rfl⟩ := append_sep_inj_data (List.not_mem_of_not_mem_cons ha)
      (List.not_mem_of_not_mem_cons hb) h
    exact ⟨rfl, rfl⟩

/-- Two strings `a + sep + r` and `b + sep + s` are equal only piecewise when the separator
character occurs in neither `a` nor `b`. -/
theorem append_sep_inj (c : Char) {a b r s : String} (ha : c ∉ a.data) (hb : c ∉ b.data)
    (h : a ++ ⟨[c]⟩ ++ r = b ++ ⟨[c]⟩ ++ s) : a = b ∧ r = s := by
  have h' : a.data ++ c :: r.data = b.data ++ c :: s.data := by
    simpa using congrArg String.data h
  obtain ⟨hab, hrs⟩ := append_sep_inj_data ha hb h'
  exact ⟨String.ext hab, String.ext hrs⟩

end LdapOperator.Strings
