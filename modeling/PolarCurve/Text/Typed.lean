import PolarCurve.Text.Cluster

/-! A backspace takes the cluster back that was typed before it and was not taken back yet. -/

namespace PolarCurve.Text

def backspace : Char := '\x08'

def typeCluster (shown : List (List Char)) (cluster : List Char) : List (List Char) :=
  if cluster = [backspace] then shown.tail else cluster :: shown

def typed (cs : List Char) : List Char := ((clusters cs).foldl typeCluster []).reverse.flatten

theorem foldl_typeCluster {gs shown : List (List Char)} (h : [backspace] ∉ gs) :
    gs.foldl typeCluster shown = gs.reverse ++ shown := by
  induction gs generalizing shown with
  | nil => rfl
  | cons g gs ih =>
    rw [List.mem_cons, not_or] at h
    rw [List.foldl_cons, ih h.2, typeCluster, if_neg (Ne.symm h.1)]
    simp

theorem typed_of_not_mem {cs : List Char} (h : backspace ∉ cs) : typed cs = cs := by
  have whole : [backspace] ∉ clusters cs := by
    intro member
    apply h
    rw [← flatten_clusters cs]
    exact List.mem_flatten.mpr ⟨[backspace], member, List.mem_singleton.mpr rfl⟩
  rw [typed, foldl_typeCluster whole, List.append_nil, List.reverse_reverse, flatten_clusters]

end PolarCurve.Text
