import Scenarist.Pattern.Compile
import Scenarist.Proofs.Outcome

/-! # Escaped texts as patterns

The pattern of a whole text between its anchors is read construct by construct: an assertion, one
literal for each character, and an assertion. Nothing in it can fail to compile.
-/

namespace Scenarist.Pattern

theorem escape_cons (c : Char) (t : Text) : escape (c :: t) = escape [c] ++ escape t :=
  by simp [escape]

theorem length_escape (t : Text) : t.length ≤ (escape t).length := by
  induction t with
  | nil => exact Nat.le_refl 0
  | cons c t ih =>
    have hone : 1 ≤ (escape [c]).length := by
      rw [escape, List.flatMap_singleton]
      split <;> simp
    rw [escape_cons, List.length_append, List.length_cons]
    omega

/-- The literals that are read from an escaped text behind `pos` characters. -/
def literalsFrom (pos : Nat) : Text → List Ast
  | [] => []
  | c :: r =>
    let stop := pos + (escape [c]).length
    .literal ⟨c, false, ⟨pos, stop⟩⟩ :: literalsFrom stop r

/-! ## Reading -/

namespace Progress

theorem step_escape (p : Progress) (c : Char) (r : Text) (pos : Nat)
    (h : p.cursor = ⟨escape [c] ++ r, pos, false⟩) :
    let stop := pos + (escape [c]).length
    p.step = .ok (p.add (.literal ⟨c, false, ⟨pos, stop⟩⟩) ⟨r, stop, false⟩) := by
  intro stop
  cases hmeta : Cursor.isMeta c with
  | true =>
    have hescape : escape [c] = ['\\', c] := by simp [escape, hmeta]
    simp only [stop, hescape] at h ⊢
    simp only [Cursor.isMeta, decide_eq_true_eq, List.mem_cons, List.not_mem_nil, or_false] at hmeta
    rw [step, h]
    rcases hmeta with rfl | rfl | rfl | rfl | rfl | rfl | rfl | rfl | rfl | rfl | rfl | rfl | rfl | rfl | rfl | rfl |
      rfl | rfl <;> rfl
  | false =>
    have hescape : escape [c] = [c] := by simp [escape, hmeta]
    have hne : ∀ d, Cursor.isMeta d = true → c ≠ d :=
      fun d hd heq => absurd (heq ▸ hmeta) (by simp [hd])
    simp only [stop, hescape] at h ⊢
    have hprimitive :
        p.cursor.primitive = .ok (.literal ⟨c, false, ⟨pos, pos + 1⟩⟩, ⟨r, pos + 1, false⟩) := by
      simp [h, Cursor.primitive, Cursor.isAt, Cursor.char, Cursor.bump, hne '\\' rfl, hne '.' rfl,
        hne '^' rfl, hne '$' rfl]
    have hchar : p.cursor.char = c := by rw [h]; rfl
    unfold step
    dsimp only
    rw [hchar]
    split
    case h_9 => rw [hprimitive]; rfl
    all_goals exact absurd rfl (hne _ (by decide))

theorem run_succ (n : Nat) (p : Progress) (h : p.cursor.ignoreSpace = false) :
    p.run (n + 1) = if p.cursor.atEnd then p.finish else p.step >>= run n := by
  have hskip : p.cursor.skipSpace = p.cursor := by
    rw [Cursor.skipSpace, h, if_neg Bool.false_ne_true]
  rw [run]
  simp only [hskip]

theorem run_step (n : Nat) {p q : Progress} (h : p.cursor.ignoreSpace = false)
    (hmore : p.cursor.atEnd = false)
    (hstep : p.step = .ok q) : p.run (n + 1) = q.run n := by
  rw [run_succ n p h, hmore, if_neg Bool.false_ne_true, hstep, ok_bind]

theorem run_end (n : Nat) {p : Progress} (h : p.cursor.ignoreSpace = false)
    (hend : p.cursor.atEnd = true) :
    p.run n = p.finish := by
  cases n with
  | zero => rfl
  | succ n => rw [run_succ n p h, hend, if_pos rfl]

theorem run_escape (n : Nat) (p : Progress) (t r : Text) (pos : Nat)
    (h : p.cursor = ⟨escape t ++ r, pos, false⟩) :
    p.run (t.length + n) =
      run n { p with
        parts := (literalsFrom pos t).reverse ++ p.parts
        cursor := ⟨r, pos + (escape t).length, false⟩ } := by
  induction t generalizing p pos with
  | nil =>
    obtain ⟨parts, start, levels, names, cursor⟩ := p
    obtain rfl : cursor = ⟨r, pos, false⟩ := h
    simp [literalsFrom, escape]
  | cons c t ih =>
    rw [escape_cons, List.append_assoc] at h
    have hmore : p.cursor.atEnd = false := by
      rw [h, Cursor.atEnd, escape, List.flatMap_singleton]
      split <;> rfl
    rw [List.length_cons, Nat.add_right_comm,
      run_step _ (by rw [h]) hmore (step_escape p c _ pos h), ih _ _ rfl]
    simp [add, literalsFrom, escape_cons c t, Nat.add_assoc]

end Progress

/-- The whole text between its anchors, as it is read. -/
def wholeParts (t : Text) : List Ast :=
  let stop := 1 + (escape t).length
  .assertion ⟨0, 1⟩ .lineStart :: literalsFrom 1 t ++ [.assertion ⟨stop, stop + 1⟩ .lineEnd]

theorem tooDeepAny?_wholeParts (depth : Nat) (t : Text) :
    tooDeepAny? depth (wholeParts t) = none := by
  have hliterals : ∀ (pos : Nat) (r : List Ast),
      tooDeepAny? depth (literalsFrom pos t ++ r) = tooDeepAny? depth r := by
    intro pos r
    induction t generalizing pos with
    | nil => rfl
    | cons c t ih =>
      rw [literalsFrom, List.cons_append, tooDeepAny?, ih]
      rfl
  rw [wholeParts, List.cons_append, tooDeepAny?, hliterals]
  rfl

theorem read_whole (t : Text) :
    Ast.read false ('^' :: escape t ++ ['$']) =
      .ok (.concat ⟨0, 1 + (escape t).length + 1⟩ (wholeParts t)) := by
  -- one round for each character and one for each anchor; backslashes leave rounds to spare
  obtain ⟨spare, hspare⟩ := Nat.exists_eq_add_of_le (length_escape t)
  have hfuel : ('^' :: escape t ++ ['$']).length + 1 = t.length + (spare + 1 + 1) + 1 := by
    simp [hspare]
    omega
  have hrun : Progress.run (('^' :: escape t ++ ['$']).length + 1)
      ⟨[], 0, [], [], ⟨'^' :: escape t ++ ['$'], 0, false⟩⟩ =
      .ok (.concat ⟨0, 1 + (escape t).length + 1⟩ (wholeParts t)) := by
    rw [hfuel, Progress.run_step _ rfl rfl (by rfl), Progress.run_escape _ _ t ['$'] 1 rfl,
      Progress.run_step _ rfl rfl (by rfl), Progress.run_end _ rfl rfl]
    simp [Progress.finish, Progress.takeBranches, Progress.body, Progress.concat, Progress.add,
      Cursor.bump, wholeParts]
  rw [Ast.read, hrun, ok_bind, Ast.tooDeep?, tooDeepAny?_wholeParts]
  rfl

/-! ## Meaning -/

theorem Expr.followedBy_eq_seq {a b : Expr} (ha : a ≠ .empty) (hb : b ≠ .empty) :
    a.followedBy b = .seq a b := by
  cases a <;> cases b <;> first | rfl | contradiction

/-- The characters of a text whatever their case, and then `e`. -/
def Expr.anyCaseThen (t : Text) (e : Expr) : Expr :=
  t.foldr (fun c e => .seq (.set (.anyCase (.char c))) e) e

theorem Expr.anyCaseThen_ne_empty (t : Text) {e : Expr} (he : e ≠ .empty) :
    e.anyCaseThen t ≠ .empty := by
  cases t with
  | nil => exact he
  | cons c t => exact nofun

theorem partsExpr_literalsFrom {f g : Flags} (hcase : f.caseInsensitive = true)
    (hunicode : f.unicode = true)
    (pos : Nat) (t : Text) {r : List Ast} {e : Expr} (hr : partsExpr f r = .ok (e, g))
    (he : e ≠ .empty) :
    partsExpr f (literalsFrom pos t ++ r) = .ok (e.anyCaseThen t, g) := by
  induction t generalizing pos with
  | nil => exact hr
  | cons c t ih =>
    have hset : f.folded (.char c) = .anyCase (.char c) := by
      rw [Flags.folded, if_pos hcase, if_pos hunicode]
    have hscalar : ∀ span, Literal.scalar f ⟨c, false, span⟩ = .ok c := fun span => by
      simp [Literal.scalar]
    rw [literalsFrom, List.cons_append, partsExpr, Ast.expr, hscalar, ok_bind, hset]
    simp only [pure, Except.pure, ok_bind, ih]
    exact congrArg (fun e => Except.ok (e, g))
      (Expr.followedBy_eq_seq nofun (Expr.anyCaseThen_ne_empty t he))

/-- The pattern of a whole text means the text between the ends of what is matched, whatever its
case. -/
theorem compile_whole (t : Text) :
    compile ('^' :: escape t ++ ['$']) ['i'] =
      .ok (.seq (.look .textStart) ((Expr.look .textEnd).anyCaseThen t)) := by
  let f : Flags := { Flags.plain with caseInsensitive := true }
  have hend : partsExpr f [.assertion ⟨1 + (escape t).length, 1 + (escape t).length + 1⟩ .lineEnd] =
      .ok (.look .textEnd, f) := rfl
  have htext := partsExpr_literalsFrom (f := f) rfl rfl 1 t hend nofun
  have hparts : (Ast.concat ⟨0, 1 + (escape t).length + 1⟩ (wholeParts t)).expr f =
      .ok (.seq (.look .textStart) ((Expr.look .textEnd).anyCaseThen t), f) := by
    rw [Ast.expr, wholeParts, List.cons_append, partsExpr, Ast.expr, ok_bind]
    dsimp only
    rw [htext, ok_bind]
    exact congrArg (fun e => Except.ok (e, f))
      (Expr.followedBy_eq_seq nofun (Expr.anyCaseThen_ne_empty t nofun))
  have hflags : Flags.plain.ofLetters false ['i'] = .ok (f, false) := rfl
  rw [compile, hflags, ok_bind]
  dsimp only
  rw [read_whole, ok_bind, hparts]
  rfl

end Scenarist.Pattern
