/-
Reading is a homomorphism of sources. Below a source that declares an application, a source declares what it declares
alone, in addition (`readApp_append_line`); and if it declares nothing, it fails as it does alone, further down.

The tokens of the second source are read from where the first one ends, at the top level of the grammar. That run
corresponds to the one on the second source alone: its tokens are the same further down, and its head start is what the
first source has passed and skipped.
-/
import Pagewright.Proofs.Compile.Outcome
import Pagewright.Proofs.Grammar.Correspondence

namespace Pagewright

open Pagewright.Grammar

/-! ## Failures further down -/

/-- the fault, some lines further down -/
def Grammar.Fault.lowered (n : Nat) : Grammar.Fault → Grammar.Fault
  | .mismatch e => .mismatch { e with line := e.line + n }
  | f => f

/-- the failure, some lines further down; a reference has no line -/
def Failure.lowered (n : Nat) : Failure → Failure
  | .lex e => .lex (e.lowered n)
  | .grammar f => .grammar (f.lowered n)
  | .generation e => .generation e

namespace Grammar

open Pagewright.Grammar.Parser

/-- tokens and the same tokens further down, the second run having a head start -/
def lowering (n passed : Nat) (noted : List Note) : Correspondence where
  Pair t u := u = t.lowered n
  kind_eq := by
    intro t u h
    rw [h]
    rfl
  value_eq := by
    intro t u h
    rw [h]
    rfl
  passed := passed
  noted := noted

theorem eq_lowered_of_faults {n passed : Nat} {noted : List Note} {f f' : Fault}
    (h : (lowering n passed noted).Faults f f') : f' = f.lowered n := by
  cases h with
  | unexpected h x =>
    obtain rfl := h
    rfl
  | unknownType h =>
    obtain rfl := h
    rfl
  | other hf => cases f <;> simp_all [Fault.lowered]

/-! ## Declarations after others -/

theorem Ended.append {ts us : List Token} (h : Ended us) (hts : ∀ t ∈ ts, t.kind ≠ .finish) : Ended (ts ++ us) := by
  obtain ⟨body, e, rfl, he, hbody⟩ := (ended_iff us).1 h
  refine (ended_iff _).2 ⟨ts ++ body, e, by simp, he, ?_⟩
  intro t ht
  rcases List.mem_append.1 ht with ht | ht
  · exact hts t ht
  · exact hbody t ht

theorem Ended.lowered {ts : List Token} (h : Ended ts) (n : Nat) : Ended (ts.map (Token.lowered n)) := by
  obtain ⟨body, e, rfl, he, hbody⟩ := (ended_iff ts).1 h
  refine (ended_iff _).2 ⟨body.map (Token.lowered n), e.lowered n, by simp, he, ?_⟩
  intro t ht
  obtain ⟨u, hu, rfl⟩ := List.mem_map.1 ht
  exact hbody u hu

theorem appOf_append (ds es : List Declaration) : appOf (ds ++ es) = (appOf ds).append (appOf es) := by
  simp [appOf, App.append]

theorem app_result (o : Options) (s : Session) : (app o s).1 = (many (declaration o) s).1.map appOf := by
  show (andThen (many (declaration o)) _ s).1 = _
  unfold andThen
  rcases many (declaration o) s with ⟨_ | ds, s'⟩ <;> rfl

/-- **Reading on after an application.** After tokens of an application without their end, others are read as if they
stood alone, and add to it. -/
theorem app_append_lowered (o : Options) {ts us : List Token} (hts : Ended ts) (hus : Ended us) {a : App}
    (h : (app o (Session.start ts)).1 = .ok a) (n : Nat) :
    (app o (Session.start (ts.dropLast ++ us.map (Token.lowered n)))).1 =
      ((app o (Session.start us)).1.map a.append).mapError (Fault.lowered n) := by
  obtain ⟨body, e, sk, ds, rfl, -, hstar, rfl, -⟩ := (app_eq_ok o ts hts a _).1 (Prod.ext h rfl)
  have hbody := ((ended_append_singleton body e).1 hts).2
  have hlow := hus.lowered n
  rw [List.dropLast_concat, app_result, app_result]
  -- where the declarations of the first source end, and the same place of the second source alone
  let m : Session := ⟨us.map (Token.lowered n), (us.map (Token.lowered n)).getLast?, body.length, sk.map .skipped⟩
  have hm : Moves (Session.start (body ++ us.map (Token.lowered n))) body sk m := by
    refine ⟨rfl, ?_, by simp [m, Session.start], by simp [m, Session.start], hbody⟩
    exact (List.getLast?_append_of_ne_nil body hlow.ne_nil).symm
  have hsessions : (lowering n body.length (sk.map .skipped)).Sessions (Session.start us) m := by
    refine ⟨?_, ?_, rfl, [], by simp [m, lowering], .nil⟩
    · exact List.forall₂_map_right_iff.2 (List.forall₂_same.2 fun _ _ => rfl)
    · show Option.Rel _ us.getLast? (us.map (Token.lowered n)).getLast?
      rw [List.getLast?_map]
      cases us.getLast? with
      | none => exact .none
      | some t => exact .some rfl
  rw [many_after (accepts_declaration o) (declarationRule_nil o) hstar (hlow.append hbody) hm]
  have hout := Correspondence.parallel_many (Correspondence.parallel_declaration o) _ _ hsessions
  generalize many (declaration o) (Session.start us) = x at hout ⊢
  generalize many (declaration o) m = y at hout ⊢
  cases hout with
  | ok hv _ =>
    subst hv
    exact congrArg Except.ok (appOf_append ds _)
  | error hf _ => exact congrArg Except.error (eq_lowered_of_faults hf)

end Grammar

/-- **Reading is a homomorphism.** Below a source that declares an application, after a line end, any source declares the
application that it declares alone, added to the first; or it fails as it does alone, at the same column of a line that is
further down by the lines of the first source. -/
theorem readApp_append_line (o : Options) (file file' : Option String) {source : String} {a : App}
    (h : (readApp o file source).1 = .ok a) (source' : String) :
    (readApp o file' (source ++ "\n" ++ source')).1 =
      ((readApp o file' source').1.map a.append).mapError (Failure.lowered (source.toList.count '\n' + 1)) := by
  obtain ⟨ts, htok, happ⟩ := (readApp_eq_ok_iff o file a).1 h
  have hjoined := tokenize_append_line htok source'
  cases htok' : tokenize source' with
  | error e =>
    rw [htok'] at hjoined
    rw [readApp_of_lexError o file' hjoined, readApp_of_lexError o file' htok']
    rfl
  | ok us =>
    rw [htok'] at hjoined
    rw [readApp_of_tokens o file' hjoined, readApp_of_tokens o file' htok']
    have hends := (ended_shaped_of_tokenize htok).1
    rw [app_append_lowered o hends (ended_shaped_of_tokenize htok').1 happ]
    cases (app o (Session.start us)).1 <;> rfl

/-- a stray word and a comment come to nothing, and what follows them is a model, or fails on the second line -/
theorem readApp_append_line_stray :
    (readApp Options.standard none "stray // model").1 = .ok App.empty ∧
      (readApp Options.standard none ("stray // model" ++ "\n" ++ "model M \x7b \x7d")).1 =
        .ok { App.empty with models := [⟨"M", []⟩] } ∧
      (readApp Options.standard none ("stray // model" ++ "\n" ++ "model 1")).1 =
        .error (.grammar (.mismatch ⟨"IDENTIFIER", "NUMBER", "NUMBER", 2, 7⟩)) := by
  have h : (readApp Options.standard none "stray // model").1 = .ok App.empty := by decide +kernel
  refine ⟨h, ?_, ?_⟩
  · rw [readApp_append_line Options.standard none none h]
    decide +kernel
  · rw [readApp_append_line Options.standard none none h]
    decide +kernel

end Pagewright
