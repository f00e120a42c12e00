import PolarCurve.Proofs.Token.Moved
import PolarCurve.Proofs.Token.Spelling

namespace PolarCurve

open PieceKind

namespace Piece

lemma continues_seam {c : Char} {cs rest : List Char}
    (hcs : ∀ d ∈ cs, (PieceKind.ofChar c).continues d = true)
    (hlast : ∀ d ∈ (c :: cs).getLast?, isSpacing d = false) (hrest : Parted rest) :
    ∀ d ∈ rest.head?, (PieceKind.ofChar c).continues d = false := by
  intro d hd
  obtain ⟨hnumeral, hname⟩ := hrest d hd
  cases hkind : PieceKind.ofChar c with
  | blank =>
    have hrun : run c cs = c :: cs := by rw [run, List.takeWhile_eq_self_iff.mpr hcs]
    have hspacing : ∀ e ∈ c :: cs, isSpacing e = true := hrun ▸ spacing_run hkind
    have hend := List.getLast?_eq_some_getLast (List.cons_ne_nil c cs)
    have hfalse := hlast _ hend
    rw [hspacing _ (List.getLast_mem _)] at hfalse
    cases hfalse
  | number => exact hnumeral
  | name => exact hname
  | mark m => rfl
  | stray => rfl

lemma split_append {cs rest : List Char} (hlast : ∀ c ∈ cs.getLast?, isSpacing c = false)
    (hrest : Parted rest) : split (cs ++ rest) = split cs ++ split rest := by
  fun_induction split cs with
  | case1 => rfl
  | case2 c cs kind ih =>
    cases hdrop : cs.dropWhile kind.continues with
    | nil =>
      have hcs := List.dropWhile_eq_nil_iff.mp hdrop
      rw [List.cons_append, split_run rfl hcs (continues_seam hcs hlast hrest),
        List.takeWhile_eq_self_iff.mpr hcs, split]
      rfl
    | cons d ds =>
      have hends : (c :: cs).getLast? = (d :: ds).getLast? := by
        rw [← List.takeWhile_append_dropWhile (p := kind.continues) (l := cs), hdrop,
          ← List.cons_append, List.getLast?_append, List.getLast?_cons, Option.some_or]
      rw [hdrop, ← hends] at ih
      have hlonger : (cs.takeWhile kind.continues).length ≠ cs.length := by
        intro heq
        have := congrArg List.length (List.takeWhile_append_dropWhile (p := kind.continues) (l := cs))
        rw [List.length_append, heq, hdrop, List.length_cons] at this
        omega
      rw [List.cons_append, split_cons, List.takeWhile_append, if_neg hlonger,
        List.dropWhile_append, hdrop]
      exact congrArg _ (ih hlast)

lemma exists_readAll_append (place : Location) (ps qs : List Piece) :
    ∃ place', readAll place (ps ++ qs) = readAll place ps ++ readAll place' qs := by
  induction ps generalizing place with
  | nil => exact ⟨place, rfl⟩
  | cons p ps ih =>
    obtain ⟨place', h⟩ := ih (place.advance p.text)
    exact ⟨place', by rw [List.cons_append, readAll, readAll, h, List.append_assoc]⟩

end Piece

lemma Item.exists_moved {distance : Nat} {ts : List Token} {items : List (Except LexFault Token)}
    (h : List.Forall₂ (Item.Moved distance) (ts.map .ok) items) :
    ∃ us : List Token, items = us.map .ok ∧ us.map Token.kind = ts.map Token.kind := by
  induction ts generalizing items with
  | nil =>
    cases h
    exact ⟨[], rfl, rfl⟩
  | cons t ts ih =>
    obtain ⟨item, items, hitem, hitems, rfl⟩ := List.forall₂_cons_left_iff.mp h
    obtain ⟨us, rfl, hkinds⟩ := ih hitems
    cases hitem with
    | @ok _ u hmoved =>
      exact ⟨u :: us, rfl, by rw [List.map_cons, List.map_cons, hmoved.kind, hkinds]⟩

theorem Spells.of_scan {cs : List Char} {ts : List Token}
    (hlast : ∀ c ∈ cs.getLast?, isSpacing c = false)
    (h : Token.scan Location.start cs = ts.map .ok) : Spells cs (ts.map Token.kind) := by
  intro place rest hrest
  have hoffset : place.offset = Location.start.offset + place.offset := (Nat.zero_add _).symm
  have hmoved := Piece.readAll_moved hoffset (Piece.split cs)
  rw [Token.scan] at h
  rw [h] at hmoved
  obtain ⟨us, hus, hkinds⟩ := Item.exists_moved hmoved
  obtain ⟨place', hread⟩ := Piece.exists_readAll_append place (Piece.split cs) (Piece.split rest)
  refine ⟨us, place', hkinds, ?_⟩
  rw [Piece.split_append hlast hrest, hread, hus]

end PolarCurve
