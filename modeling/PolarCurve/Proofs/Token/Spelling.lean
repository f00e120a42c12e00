import PolarCurve.Proofs.Number.Numeral
import PolarCurve.Proofs.Token.Scan

namespace PolarCurve

open PieceKind

def Parted (rest : List Char) : Prop :=
  ∀ c ∈ rest.head?, isNumeral c = false ∧ isNamePart c = false

lemma parted_nil : Parted [] := by simp [Parted]

lemma parted_cons {c : Char} (hn : isNumeral c = false) (hp : isNamePart c = false)
    (cs : List Char) : Parted (c :: cs) := by
  intro d hd
  cases hd
  exact ⟨hn, hp⟩

lemma parted_mark (m : Mark) (cs : List Char) : Parted (m.char :: cs) := by
  cases m <;> exact parted_cons rfl rfl cs

lemma parted_space (cs : List Char) : Parted (' ' :: cs) := parted_cons rfl rfl cs

namespace Piece

lemma split_run {kind : PieceKind} {c : Char} {cs rest : List Char}
    (hkind : PieceKind.ofChar c = kind) (hcs : ∀ d ∈ cs, kind.continues d = true)
    (hrest : ∀ d ∈ rest.head?, kind.continues d = false) :
    split (c :: (cs ++ rest)) = ⟨kind, c :: cs⟩ :: split rest := by
  have hnot : rest.takeWhile kind.continues = [] ∧ rest.dropWhile kind.continues = rest := by
    cases rest with
    | nil => exact ⟨rfl, rfl⟩
    | cons d ds => simp [hrest d rfl]
  rw [split_cons, hkind, List.takeWhile_append_of_pos hcs, List.dropWhile_append_of_pos hcs,
    hnot.1, hnot.2, List.append_nil]

end Piece

/-- The pieces of a text are tokens of some kinds, in front of any text that goes on with none. -/
def Spells (cs : List Char) (ks : List TokenKind) : Prop :=
  ∀ place rest, Parted rest → ∃ (ts : List Token) (place' : Location), ts.map Token.kind = ks ∧
    Piece.readAll place (Piece.split (cs ++ rest)) =
      ts.map .ok ++ Piece.readAll place' (Piece.split rest)

namespace Spells

variable {c : Char} {cs ds : List Char} {k : TokenKind} {ks ls : List TokenKind}

lemma nil : Spells [] [] :=
  fun place _ _ => ⟨[], place, rfl, rfl⟩

lemma append (h : Spells cs ks) (h' : Spells ds ls) (hparted : ∀ rest, Parted (ds ++ rest)) :
    Spells (cs ++ ds) (ks ++ ls) := by
  intro place rest hrest
  obtain ⟨ts, place', hts, hread⟩ := h place (ds ++ rest) (hparted rest)
  obtain ⟨us, place'', hus, hread'⟩ := h' place' rest hrest
  refine ⟨ts ++ us, place'', by rw [List.map_append, hts, hus], ?_⟩
  rw [List.append_assoc, hread, hread', List.map_append, List.append_assoc]

lemma piece {kind : PieceKind} (hkind : PieceKind.ofChar c = kind)
    (hcs : ∀ d ∈ cs, kind.continues d = true)
    (hrest : ∀ rest, Parted rest → ∀ d ∈ rest.head?, kind.continues d = false)
    (hread : ∀ place, ∃ t : Token, t.kind = k ∧ Piece.read place ⟨kind, c :: cs⟩ = some (.ok t)) :
    Spells (c :: cs) [k] := by
  intro place rest hparted
  obtain ⟨t, ht, hread⟩ := hread place
  refine ⟨[t], place.advance (c :: cs), by rw [List.map_singleton, ht], ?_⟩
  rw [List.cons_append, Piece.split_run hkind hcs (hrest rest hparted), Piece.readAll, hread]
  rfl

lemma name (hkind : PieceKind.ofChar c = .name) (hcs : cs.all isNamePart = true) :
    Spells (c :: cs) [.name (String.ofList (c :: cs))] :=
  piece hkind (List.all_eq_true.mp hcs) (fun _ hparted d hd => (hparted d hd).2) fun _ => ⟨_, rfl, rfl⟩

lemma mark_cons (m : Mark) (h : Spells cs ks) : Spells (m.char :: cs) (.mark m :: ks) := by
  intro place rest hrest
  have hkind : PieceKind.ofChar m.char = .mark m := by cases m <;> rfl
  have hsplit : Piece.split (m.char :: ([] ++ (cs ++ rest))) =
      ⟨.mark m, [m.char]⟩ :: Piece.split (cs ++ rest) :=
    Piece.split_run hkind (by simp) (by simp [continues])
  obtain ⟨ts, place', hts, hread⟩ := h (place.advance [m.char]) rest hrest
  refine ⟨⟨.mark m, String.ofList [m.char], place⟩ :: ts, place', by rw [List.map_cons, hts], ?_⟩
  rw [List.nil_append] at hsplit
  rw [List.cons_append, hsplit, Piece.readAll, hread]
  rfl

lemma space_cons (h : Spells (c :: cs) ks) (hc : isSpacing c = false) :
    Spells (' ' :: c :: cs) ks := by
  intro place rest hrest
  have hsplit : Piece.split (' ' :: ([] ++ (c :: cs ++ rest))) =
      ⟨.blank, [' ']⟩ :: Piece.split (c :: cs ++ rest) :=
    Piece.split_run rfl (by simp) (by simpa [continues] using hc)
  obtain ⟨ts, place', hts, hread⟩ := h (place.advance [' ']) rest hrest
  refine ⟨ts, place', hts, ?_⟩
  rw [List.nil_append] at hsplit
  rw [List.cons_append, hsplit, Piece.readAll, hread]
  rfl

end Spells

lemma Piece.beforeSecondPoint?_of_count {cs : List Char} (h : cs.count '.' ≤ 1) :
    beforeSecondPoint? cs = none := by
  cases hsecond : beforeSecondPoint? cs with
  | none => rfl
  | some before =>
    obtain ⟨whole, fraction, more, -, -, -, rfl⟩ := beforeSecondPoint?_eq_some hsecond
    simp only [List.count_append, List.count_cons_self] at h
    omega

lemma isNumeral_iff {c : Char} : isNumeral c = true ↔ c.isDigit = true ∨ c = '.' := by
  simp [isNumeral]

lemma Spells.numeral {cs : List Char} {n : Nat} (h : Decimal.Writes cs n) :
    Spells cs [.number (Double.ofCode false n)] := by
  have hall : ∀ c ∈ cs, isNumeral c = true := fun c hc => isNumeral_iff.mpr (h.numeral c hc)
  have hnumber : ∀ place, Piece.readNumber place cs = .ok (.number (Double.ofCode false n)) := by
    intro place
    rw [Piece.readNumber, Piece.beforeSecondPoint?_of_count h.points, Decimal.toFloat, h.reads]
    simp only [List.any_eq_true.mpr h.digit, if_true]
  cases cs with
  | nil => simpa using h.digit
  | cons c cs =>
    have hc := hall c List.mem_cons_self
    have hkind : PieceKind.ofChar c = .number := by
      rw [PieceKind.ofChar, Piece.not_isSpacing_of_isNumeral hc, hc]
      rfl
    apply Spells.piece hkind (fun d hd => hall d (List.mem_cons_of_mem _ hd))
      (fun _ hparted d hd => (hparted d hd).1)
    intro place
    simp only [Piece.read, hnumber place]
    exact ⟨_, rfl, rfl⟩

theorem Token.lex_of_spells {cs : List Char} {ks : List TokenKind} (h : Spells cs ks)
    (start : Location) : ∃ ts : List Token, ts.map Token.kind = ks ∧
      Token.lex start cs = .ok (ts ++ [⟨.ending, "", start.advance cs⟩]) := by
  obtain ⟨ts, place, hts, hread⟩ := h start [] parted_nil
  refine ⟨ts, hts, lex_eq_ok_iff.mpr ⟨ts, ?_, rfl⟩⟩
  rw [List.append_nil, Piece.split, Piece.readAll, List.append_nil] at hread
  exact hread

end PolarCurve
