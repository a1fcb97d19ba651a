import Reckoner.Proofs.Assignment
import Reckoner.Proofs.FiniteResults

/-!
# What holds in every session

A session that starts with the constants alone never leaves these bounds, whatever lines it
processes: the values that are bound and the outcomes hold finite doubles only, the bound names are
names and no keywords, and the constants stay in front (`processAll_initial_sound`).

`Session.Sound` is the invariant. A line keeps it (`Session.Sound.process`), since a line does no more
than assign a value, and so do all lines of a run.
-/

set_option autoImplicit false

namespace Reckoner

open Grammar Token

/-! ## Literals of a line -/

namespace Grammar

/-- The values are all literals that stand among the tokens. -/
def LiteralsFrom (us : List Token) (values : List Value) : Prop :=
  ∀ v ∈ values, ∃ t ∈ us, Literal t.kind v

theorem LiteralsFrom.nil (us : List Token) : LiteralsFrom us [] := by
  simp [LiteralsFrom]

theorem LiteralsFrom.mono {us vs : List Token} {values : List Value} (h : LiteralsFrom us values)
    (hsub : ∀ t ∈ us, t ∈ vs) : LiteralsFrom vs values := by
  intro v hv
  obtain ⟨t, ht, hliteral⟩ := h v hv
  exact ⟨t, hsub t ht, hliteral⟩

theorem LiteralsFrom.append {us : List Token} {left right : List Value}
    (hleft : LiteralsFrom us left) (hright : LiteralsFrom us right) :
    LiteralsFrom us (left ++ right) := by
  intro v hv
  rcases List.mem_append.1 hv with hv | hv
  · exact hleft v hv
  · exact hright v hv

section Literals

variable {R : List Token → Expr → Prop} (hR : ∀ us e, R us e → LiteralsFrom us e.literals)

include hR

theorem Expression.literalsFrom {us : List Token} {e : Expr} (h : Expression R us e) :
    LiteralsFrom us e.literals := by
  refine Expression.induction (P := fun us e => LiteralsFrom us e.literals) hR ?_ h
  intro us vs t op l r _ hl hr
  exact (hl.mono (by simp +contextual)).append (hr.mono (by simp +contextual))

theorem Arguments.literalsFrom {us : List Token} {es : List Expr}
    (h : Arguments (Expression R) us es) : LiteralsFrom us (Expr.literalsAll es) := by
  induction h with
  | none => exact .nil _
  | last he =>
    rw [Expr.literalsAll, Expr.literalsAll, List.append_nil]
    exact Expression.literalsFrom hR he
  | cons he _ _ ih =>
    have hfirst := Expression.literalsFrom hR he
    exact (hfirst.mono (by simp +contextual)).append (ih.mono (by simp +contextual))

end Literals

theorem Operand.literalsFrom {us : List Token} {e : Expr} (h : Operand us e) :
    LiteralsFrom us e.literals := by
  have hmotive : ∀ us e, (∃ _ : Operand us e, LiteralsFrom us e.literals) →
      LiteralsFrom us e.literals := fun _ _ ⟨_, h⟩ => h
  induction h using Operand.induction with
  | @literal t v hv =>
    intro w hw
    obtain rfl : w = v := by simpa [Expr.literals] using hw
    exact ⟨t, by simp, hv⟩
  | name => exact .nil _
  | call _ _ _ _ ih => exact (Arguments.literalsFrom hmotive ih).mono (by simp +contextual)
  | list _ _ _ ih => exact (Arguments.literalsFrom hmotive ih).mono (by simp +contextual)
  | paren _ _ _ ih => exact (Expression.literalsFrom hmotive ih).mono (by simp +contextual)
  | unary _ _ ih => exact ih.mono (by simp +contextual)

end Grammar

/-- A token of a line that is a literal holds finite doubles only. -/
theorem Token.Lexes.literal_allFinite {chars : List Char} {offset : Nat} {ts : List Token}
    (h : Lexes chars offset ts) {t : Token} (ht : t ∈ ts) {v : Value} (hv : Literal t.kind v) :
    v.AllFinite := by
  generalize hkind : t.kind = kind at hv
  cases hv with
  | int n => exact Value.allFinite_int n
  | float x =>
    have hfinish : t.kind.isFinish = false := by
      rw [hkind]
      rfl
    have hword := (h.word_of_mem ht hfinish).1
    rw [hkind] at hword
    exact Value.allFinite_float.2 hword.isFinite_of_float
  | text s => exact Value.allFinite_text s
  | bool b => exact Value.allFinite_bool b

/-- A line in an environment of finite values gives a finite value, if it gives any. -/
theorem Session.process_allFinite {s : Session} (hs : s.environment.AllFinite) {line : String}
    {v : Value} (h : (s.process line).1 = .ok (some v)) : v.AllFinite := by
  unfold Session.process at h
  split at h
  · simp at h
  · next statement hread =>
    obtain ⟨ts, q, hlexes, hsentence, -⟩ := Session.read_eq_ok_iff.1 hread
    have hexpr : ∀ {us : List Token} {e : Expr}, Expression Operand us e → (∀ t ∈ us, t ∈ ts) →
        FiniteResult (e.eval s.environment) := by
      intro us e he hsub
      apply Expr.eval_allFinite hs
      intro w hw
      obtain ⟨t, ht, hliteral⟩ := Expression.literalsFrom (fun _ _ h => h.literalsFrom) he w hw
      exact hlexes.literal_allFinite (List.mem_append_left _ (hsub t ht)) hliteral
    cases hsentence with
    | blank => simp [Statement.eval] at h
    | @expr us e he =>
      cases hvalue : e.eval s.environment with
      | error err => simp [Statement.eval, hvalue] at h
      | ok w =>
        obtain rfl : w = v := by simpa [Statement.eval, hvalue] using h
        exact hexpr he (fun _ ht => ht) w hvalue
    | @assign t a us name e _ _ he =>
      cases hvalue : e.eval s.environment with
      | error err => simp [Statement.eval, hvalue] at h
      | ok w =>
        obtain rfl : w = v := by simpa [Statement.eval, hvalue] using h
        exact hexpr he (by simp +contextual) w hvalue

/-! ## Names -/

/-- A letter or an underscore. -/
def IsLetter (c : Char) : Prop :=
  ('A' ≤ c ∧ c ≤ 'Z') ∨ ('a' ≤ c ∧ c ≤ 'z') ∨ c = '_'

/-- Letters and digits, a letter first, and no keyword. -/
def IsName (name : String) : Prop :=
  (∃ c ∈ name.toList.head?, IsLetter c) ∧
  (∀ c ∈ name.toList, IsLetter c ∨ ('0' ≤ c ∧ c ≤ '9')) ∧ name ∉ ["true", "false", "not"]

theorem startsName_iff {c : Char} : startsName c = true ↔ IsLetter c := by
  simp [startsName, Char.isAlpha, Char.isUpper, Char.isLower, IsLetter, Char.le_def, or_assoc]

theorem continuesName_iff {c : Char} :
    continuesName c = true ↔ IsLetter c ∨ ('0' ≤ c ∧ c ≤ '9') := by
  have hdigit : c.isDigit = true ↔ '0' ≤ c ∧ c ≤ '9' := by simp [Char.isDigit, Char.le_def]
  rw [← startsName_iff, ← hdigit]
  simp only [continuesName, startsName, Char.isAlphanum, Bool.or_eq_true]
  exact or_right_comm

theorem isName_of_word {name : String} (h : Word name.toList (.name name)) : IsName name := by
  obtain ⟨-, hkeyword, c, more, hname, hc, hmore⟩ := h.eq_of_name
  refine ⟨⟨c, by simp [hname], startsName_iff.1 hc⟩, ?_, ?_⟩
  · intro d hd
    rw [hname] at hd
    rcases List.mem_cons.1 hd with rfl | hd
    · exact Or.inl (startsName_iff.1 hc)
    · exact continuesName_iff.1 (hmore d hd)
  · intro hmem
    simp only [List.mem_cons, List.not_mem_nil, or_false] at hmem
    rcases hmem with rfl | rfl | rfl <;> simp [Kind.ofKeyword?] at hkeyword

/-! ## The invariant -/

/-- A binding is the new one or was there before. -/
theorem Environment.mem_bind {name : String} {value : Value} {bindings : List (String × Value)}
    {binding : String × Value} (h : binding ∈ bind name value bindings) :
    binding = (name, value) ∨ binding ∈ bindings := by
  induction bindings with
  | nil => exact Or.inl (List.mem_singleton.1 h)
  | cons first more ih =>
    rw [bind] at h
    split at h
    · next heq =>
      rcases List.mem_cons.1 h with rfl | h
      · exact Or.inl (by rw [heq])
      · exact Or.inr (List.mem_cons_of_mem _ h)
    · rcases List.mem_cons.1 h with rfl | h
      · exact Or.inr List.mem_cons_self
      · rcases ih h with heq | h
        · exact Or.inl heq
        · exact Or.inr (List.mem_cons_of_mem _ h)

/-- The bound values are finite, the bound names are names, and the constants come first. -/
structure Session.Sound (s : Session) : Prop where
  finite : s.environment.AllFinite
  named : ∀ name ∈ s.environment.names, IsName name
  constants : ["pi", "e", "tau"] <+: s.environment.names

namespace Session

theorem sound_initial : initial.Sound where
  finite := by
    have hconstants : ∀ constant ∈ Environment.constants, Binary64.isFinite constant.2 = true := by
      intro constant h
      simp only [Environment.constants, List.mem_cons, List.not_mem_nil, or_false] at h
      rcases h with rfl | rfl | rfl <;> exact Binary64.isFinite_ofBits (by decide)
    intro binding h
    obtain ⟨constant, hconstant, rfl⟩ := List.mem_map.1 h
    exact Value.allFinite_float.2 (hconstants constant hconstant)
  named := by
    have hnames : ∀ name ∈ ["pi", "e", "tau"], IsName name := by simp [IsName, IsLetter]
    exact hnames
  constants := List.prefix_refl _

/-- An assignment of a finite value to a name keeps the invariant. -/
theorem Sound.assign {s : Session} (hs : s.Sound) {name : String} {v : Value} (hname : IsName name)
    (hv : v.AllFinite) : Sound ⟨s.environment.assign name v⟩ := by
  have hnames := s.environment.names_assign name v
  constructor
  · intro binding h
    rcases Environment.mem_bind h with rfl | h
    · exact hv
    · exact hs.finite binding h
  · intro n hn
    change n ∈ (s.environment.assign name v).names at hn
    rw [hnames] at hn
    split at hn
    · exact hs.named n hn
    · rcases List.mem_append.1 hn with hn | hn
      · exact hs.named n hn
      · rw [List.mem_singleton.1 hn]
        exact hname
  · change _ <+: (s.environment.assign name v).names
    rw [hnames]
    split
    · exact hs.constants
    · exact hs.constants.trans (List.prefix_append _ _)

/-- A line keeps the invariant. -/
theorem Sound.process {s : Session} (hs : s.Sound) (line : String) : (s.process line).2.Sound := by
  rw [process_snd]
  cases hassigned : s.assigned? line with
  | none => exact hs
  | some assignment =>
    obtain ⟨name, v⟩ := assignment
    obtain ⟨⟨nameSpan, e, hread⟩, hvalue⟩ := assigned?_cases hassigned
    exact hs.assign (isName_of_word (word_of_assign hread)) (process_allFinite hs.finite hvalue)

/-- The lines of a run keep the invariant. -/
theorem Sound.processAll {s : Session} (hs : s.Sound) (lines : List String) :
    (s.processAll lines).Sound := by
  induction lines generalizing s with
  | nil => exact hs
  | cons line more ih => exact ih (hs.process line)

end Session

/-- In a session that started with the constants alone and has processed any lines, every double in
a bound value, or in the value that a further line gives, is a number and not infinite, at whatever
depth it stands. Every bound name is made of letters, digits and underscores, does not begin with a
digit and is no keyword. The first names are those of the constants, in their order. -/
theorem processAll_initial_sound (lines : List String) :
    let s := Session.initial.processAll lines
    (∀ binding ∈ s.environment.bindings, ∀ x ∈ binding.2.floats,
      x.isNaN = false ∧ x.isInf = false) ∧
    (∀ (line : String) (v : Value), (s.process line).1 = .ok (some v) →
      ∀ x ∈ v.floats, x.isNaN = false ∧ x.isInf = false) ∧
    (∀ name ∈ s.environment.names, IsName name) ∧
    s.environment.names.take 3 = ["pi", "e", "tau"] := by
  intro s
  have hs : s.Sound := Session.sound_initial.processAll lines
  refine ⟨?_, ?_, hs.named, ?_⟩
  · intro binding hbinding x hx
    exact (Binary64.isFinite_iff x).1 (hs.finite binding hbinding x hx)
  · intro line v hv x hx
    exact (Binary64.isFinite_iff x).1 (Session.process_allFinite hs.finite hv x hx)
  · exact (List.prefix_iff_eq_take.1 hs.constants).symm

/-- A line that binds a list with a negative double in it. -/
def mirrorLine : String :=
  "x = [-pi]"

theorem processAll_initial_sound_mirrorLine :
    let mirrored := Binary64.negate (Float.ofBits 0x400921fb54442d18)
    ((Session.initial.processAll [mirrorLine]).process "x").1 =
      .ok (some (.list [.float mirrored])) ∧
    mirrored.isNaN = false ∧ mirrored.isInf = false := by
  intro mirrored
  have hread : Session.read mirrorLine =
      .ok (.assign "x" ⟨0, 1⟩ (.list [.unary .neg (.name "pi" ⟨6, 8⟩) ⟨5, 8⟩] ⟨4, 9⟩)) := by cbv
  have hname : Session.read "x" = .ok (.expr (.name "x" ⟨0, 1⟩)) := by cbv
  have hvalue : ((Session.initial.processAll [mirrorLine]).process "x").1 =
      .ok (some (.list [.float mirrored])) := by
    simp only [Session.processAll, List.foldl, Session.process, hread, hname]
    rfl
  obtain ⟨-, hfinite, -⟩ := processAll_initial_sound [mirrorLine]
  exact ⟨hvalue, hfinite "x" _ hvalue mirrored (by simp [Value.floats, Value.floatsAll])⟩

end Reckoner
