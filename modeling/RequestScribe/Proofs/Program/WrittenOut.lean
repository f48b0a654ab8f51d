import Mathlib.Data.List.Forall2
import RequestScribe.Program.Brief
import RequestScribe.Proofs.Program.HeaderStep
import RequestScribe.Proofs.Shape.TypeNames

/-!
# Reading secrets and writing them out

A program that reads its secrets from environment variables sends what a program
sends in which they are written out.  The two extractions go through the headers
side by side: where one writes a text, the other has a fragment that comes to
this text in the variables taken so far.

Every secret has a variable of its own.  A new variable is not among those that
are there, so no fragment changes its meaning later on, and the variables that
the fragments read are, up to order, just the variables there are.
-/

namespace RequestScribe

namespace Fragment

/-- The text of a fragment, given the values of the variables. -/
def value? (vars : EnvVars) : Fragment → Option String
  | .literal text => some text
  | .env var lead => (vars.lookup var).map (lead ++ ·)

def var? : Fragment → Option String
  | .literal _ => none
  | .env var _ => some var

def ComesTo (vars : EnvVars) (f written : Fragment) : Prop :=
  ∃ text, written = .literal text ∧ f.value? vars = some text

theorem comesTo_literal (vars : EnvVars) (text : String) :
    ComesTo vars (.literal text) (.literal text) :=
  ⟨text, rfl, rfl⟩

theorem ComesTo.literal {vars : EnvVars} {f written : Fragment} (h : f.ComesTo vars written) :
    ∃ text, written = .literal text :=
  h.imp fun _ both => both.1

/-- What is written out comes to the same in any variables. -/
theorem ComesTo.value?_eq {vars : EnvVars} {f written : Fragment} (h : f.ComesTo vars written)
    (other : EnvVars) : f.value? vars = written.value? other := by
  obtain ⟨text, rfl, value⟩ := h
  exact value

/-- Variables that come later do not matter to a fragment whose own is there. -/
theorem ComesTo.extend {vars : EnvVars} {f written : Fragment} (h : f.ComesTo vars written)
    (more : EnvVars) : f.ComesTo (vars ++ more) written := by
  obtain ⟨text, hwritten, hvalue⟩ := h
  refine ⟨text, hwritten, ?_⟩
  cases f with
  | literal _ => exact hvalue
  | env var lead =>
      obtain ⟨value, found, htext⟩ := Option.map_eq_some_iff.1 hvalue
      rw [value?, List.lookup_append, found, Option.some_or, Option.map_some, htext]

end Fragment

namespace EnvVars

open Fragment

/-- The variables have different names, and each is read by one of the fragments. -/
structure UsedOnce (vars : EnvVars) (fs : List Fragment) : Prop where
  distinct : (vars.map Prod.fst).Nodup
  used : (fs.filterMap var?).Perm (vars.map Prod.fst)

theorem usedOnce_nil : UsedOnce [] [] := ⟨List.nodup_nil, .nil⟩

theorem UsedOnce.perm {vars : EnvVars} {fs gs : List Fragment} (h : vars.UsedOnce fs)
    (same : gs.Perm fs) : vars.UsedOnce gs :=
  ⟨h.distinct, (same.filterMap var?).trans h.used⟩

theorem UsedOnce.literal {vars : EnvVars} {fs : List Fragment} (h : vars.UsedOnce fs)
    (text : String) : vars.UsedOnce (.literal text :: fs) :=
  ⟨h.distinct, h.used⟩

theorem UsedOnce.count {vars : EnvVars} {fs : List Fragment} (h : vars.UsedOnce fs)
    {var : String} (mem : var ∈ vars.map Prod.fst) :
    fs.countP (fun f => f.var? == some var) = 1 := by
  rw [← List.count_filterMap, h.used.count_eq, h.distinct.count, if_pos mem]

/-- A secret goes to a variable that is not there yet. -/
theorem exists_secret_eq (vars : EnvVars) (wished value lead : String) :
    ∃ var, var ∉ vars.map Prod.fst ∧
      secret true vars wished value lead = (.env var lead, vars ++ [(var, value)]) :=
  ⟨_, Fresh.name_not_mem _ (Fresh.numbering_underscored wished), rfl⟩

section Secret

variable (vars : EnvVars) (wished value lead : String)

theorem exists_extend_secret :
    ∃ more, (secret true vars wished value lead).2 = vars ++ more := by
  obtain ⟨var, -, taken⟩ := exists_secret_eq vars wished value lead
  exact ⟨[(var, value)], by rw [taken]⟩

theorem comesTo_secret (off : EnvVars) :
    (secret true vars wished value lead).1.ComesTo (secret true vars wished value lead).2
      (secret false off wished value lead).1 := by
  obtain ⟨var, fresh, taken⟩ := exists_secret_eq vars wished value lead
  have absent : vars.lookup var = none := by
    rw [List.lookup_eq_none_iff]
    intro pair mem
    have other : var ≠ pair.1 := fun same => fresh (same ▸ List.mem_map_of_mem mem)
    exact bne_iff_ne.2 other
  refine ⟨lead ++ value, rfl, ?_⟩
  rw [taken, value?, List.lookup_append, absent]
  simp

theorem UsedOnce.secret {vars : EnvVars} {fs : List Fragment} (h : vars.UsedOnce fs) :
    (secret true vars wished value lead).2.UsedOnce
      ((secret true vars wished value lead).1 :: fs) := by
  obtain ⟨var, fresh, taken⟩ := exists_secret_eq vars wished value lead
  rw [taken]
  constructor
  · rw [List.map_append, List.nodup_append]
    refine ⟨h.distinct, List.pairwise_singleton _ _, ?_⟩
    rintro a mem b last rfl
    obtain rfl := List.mem_singleton.1 last
    exact fresh mem
  · have added := (List.Perm.cons var h.used).trans (List.perm_append_singleton var _).symm
    rw [List.map_append]
    exact added

end Secret

end EnvVars

namespace Extraction

open Fragment

/-- The fragments of a program, those of basic authentication first. -/
def fragments (e : Extraction) : List Fragment :=
  (e.basicAuth?.map fun (user, password) => [user, password]).getD [] ++ e.headers.map Prod.snd

/-- The headers as they are sent where the variables have the values taken from the request. -/
def headerValues (e : Extraction) : List (String × Option String) :=
  e.headers.map fun header => (header.1, header.2.value? e.envVars)

def basicAuthValues? (e : Extraction) : Option (Option String × Option String) :=
  e.basicAuth?.map fun (user, password) => (user.value? e.envVars, password.value? e.envVars)

/-! ## Two extractions side by side -/

def HeadersComeTo (vars : EnvVars) : List (String × Fragment) → List (String × Fragment) → Prop :=
  List.Forall₂ fun header written => header.1 = written.1 ∧ header.2.ComesTo vars written.2

def BasicAuthComesTo (vars : EnvVars) :
    Option (Fragment × Fragment) → Option (Fragment × Fragment) → Prop :=
  Option.Rel fun pair written => pair.1.ComesTo vars written.1 ∧ pair.2.ComesTo vars written.2

theorem HeadersComeTo.extend {vars : EnvVars} {headers written : List (String × Fragment)}
    (h : HeadersComeTo vars headers written) (more : EnvVars) :
    HeadersComeTo (vars ++ more) headers written :=
  h.imp fun _ _ ⟨name, value⟩ => ⟨name, value.extend more⟩

theorem HeadersComeTo.append {vars : EnvVars} {headers written : List (String × Fragment)}
    (h : HeadersComeTo vars headers written) {name : String} {f g : Fragment}
    (value : f.ComesTo vars g) :
    HeadersComeTo vars (headers ++ [(name, f)]) (written ++ [(name, g)]) :=
  List.rel_append h (.cons ⟨rfl, value⟩ .nil)

theorem rel_imp {α β : Type} {R S : α → β → Prop} (weaker : ∀ a b, R a b → S a b)
    {a : Option α} {b : Option β} (h : Option.Rel R a b) : Option.Rel S a b := by
  cases h with
  | none => exact .none
  | some related => exact .some (weaker _ _ related)

/--
A pass that reads secrets from variables, and one that writes them out, after
the same headers; `basic` and `basicOut` are their credentials.
-/
structure Pass.Mirrors (basic basicOut : Option (Fragment × Fragment)) (p out : Pass) :
    Prop where
  basicAuth : BasicAuthComesTo p.envVars basic basicOut
  headers : HeadersComeTo p.envVars p.headers out.headers
  pending : Option.Rel (ComesTo p.envVars) p.pending? out.pending?
  noVars : out.envVars = []
  used : p.envVars.UsedOnce
    (p.pending?.toList ++ Extraction.fragments ⟨p.headers, basic, p.envVars⟩)

namespace Pass

variable {basic basicOut : Option (Fragment × Fragment)} {p out : Pass} {r : Request}

theorem fragments_add (p : Pass) (name : String) (f : Fragment) :
    Extraction.fragments ⟨(p.add name f).headers, basic, p.envVars⟩ =
      Extraction.fragments ⟨p.headers, basic, p.envVars⟩ ++ [f] := by
  simp [Extraction.fragments, add]

theorem Mirrors.addLiteral (h : Mirrors basic basicOut p out) (name text : String) :
    Mirrors basic basicOut (p.add name (.literal text)) (out.add name (.literal text)) where
  basicAuth := h.basicAuth
  headers := h.headers.append (comesTo_literal _ text)
  pending := h.pending
  noVars := h.noVars
  used := by
    have last := List.perm_append_singleton (Fragment.literal text)
      (p.pending?.toList ++ Extraction.fragments ⟨p.headers, basic, p.envVars⟩)
    rw [List.append_assoc, ← fragments_add p name] at last
    exact (h.used.literal text).perm last

/-- A pass in which the credentials that wait for a place, if there are any, have got it. -/
def placed (p : Pass) (name : String) : Pass :=
  match p.pending? with
  | some f => { p.add name f with pending? := none }
  | none => p

theorem Mirrors.placed (h : Mirrors basic basicOut p out) (name : String) :
    Mirrors basic basicOut (p.placed name) (out.placed name) := by
  have pending := h.pending
  have used := h.used
  unfold Pass.placed
  cases hp : p.pending? with
  | none =>
      rw [hp] at pending
      cases hout : out.pending? with
      | none => exact h
      | some g => rw [hout] at pending; nomatch pending
  | some f =>
      rw [hp] at pending used
      cases hout : out.pending? with
      | none => rw [hout] at pending; nomatch pending
      | some g =>
          rw [hout] at pending
          obtain ⟨value⟩ := pending
          have last := List.perm_append_singleton f
            (Extraction.fragments ⟨p.headers, basic, p.envVars⟩)
          rw [← fragments_add p name] at last
          exact ⟨h.basicAuth, h.headers.append value, .none, h.noVars, used.perm last⟩

theorem Mirrors.addSecret (h : Mirrors basic basicOut p out) (name wished value lead : String) :
    Mirrors basic basicOut
      { p.add name (EnvVars.secret true p.envVars wished value lead).1 with
        envVars := (EnvVars.secret true p.envVars wished value lead).2 }
      { out.add name (EnvVars.secret false out.envVars wished value lead).1 with
        envVars := (EnvVars.secret false out.envVars wished value lead).2 } := by
  have comes := EnvVars.comesTo_secret p.envVars wished value lead out.envVars
  have used := h.used.secret wished value lead
  obtain ⟨more, grown⟩ := EnvVars.exists_extend_secret p.envVars wished value lead
  generalize EnvVars.secret true p.envVars wished value lead = taken at comes used grown ⊢
  obtain ⟨f, vars⟩ := taken
  obtain rfl : vars = p.envVars ++ more := grown
  constructor
  · exact rel_imp (fun _ _ both => ⟨both.1.extend more, both.2.extend more⟩) h.basicAuth
  · exact (h.headers.extend more).append comes
  · exact rel_imp (fun _ _ value => value.extend more) h.pending
  · exact h.noVars
  · have last := List.perm_append_singleton f
      (p.pending?.toList ++ Extraction.fragments ⟨p.headers, basic, p.envVars⟩)
    rw [List.append_assoc, ← fragments_add p name] at last
    exact used.perm last

theorem Mirrors.step (h : Mirrors basic basicOut p out) (r : Request)
    (header : String × String) :
    Mirrors basic basicOut (p.step true r header) (out.step false r header) := by
  obtain ⟨name, value⟩ := header
  cases left : isLeftOut r (Text.lower name) with
  | true =>
      rw [step_of_leftOut left, step_of_leftOut left]
      exact h
  | false =>
      by_cases auth : Text.lower name = "authorization"
      · cases given : r.authorization? with
        | none =>
            rw [step_of_no_credentials left auth given, step_of_no_credentials left auth given]
            exact h.addLiteral name value
        | some a =>
            have present : r.authorization?.isSome = true := by rw [given]; rfl
            rw [step_of_credentials left auth present, step_of_credentials left auth present]
            exact h.placed name
      · cases secret : isSecretHeader name with
        | true =>
            rw [step_of_secret left auth secret, step_of_secret left auth secret]
            exact h.addSecret name (envName name) value ""
        | false =>
            rw [step_of_plain left auth secret, step_of_plain left auth secret]
            exact h.addLiteral name value

/-- The two passes stay side by side through all headers. -/
theorem Mirrors.foldl_step (h : Mirrors basic basicOut p out) (r : Request)
    (headers : Headers) :
    Mirrors basic basicOut (headers.foldl (Pass.step true r) p)
      (headers.foldl (Pass.step false r) out) := by
  induction headers generalizing p out with
  | nil => exact h
  | cons header rest ih => exact ih (h.step r header)

/-- The passes begin with the credentials, of which the first has taken the secrets out. -/
theorem mirrors_credentials (r : Request) :
    Mirrors (credentials true r).basicAuth? (credentials false r).basicAuth?
      { pending? := (credentials true r).header?, envVars := (credentials true r).envVars }
      { pending? := (credentials false r).header?, envVars := (credentials false r).envVars } := by
  have empty := EnvVars.usedOnce_nil
  unfold credentials
  cases given : r.authorization? with
  | none => exact ⟨.none, .nil, .none, rfl, empty⟩
  | some a =>
      cases a with
      | basic username password =>
          have user := EnvVars.comesTo_secret [] usernameVariable username "" []
          have used := empty.secret usernameVariable username ""
          dsimp only
          generalize EnvVars.secret true [] usernameVariable username "" = first at user used ⊢
          have pass := EnvVars.comesTo_secret first.2 passwordVariable password "" []
          have usedBoth := used.secret passwordVariable password ""
          obtain ⟨more, grown⟩ :=
            EnvVars.exists_extend_secret first.2 passwordVariable password ""
          refine ⟨.some ⟨?_, pass⟩, .nil, .none, rfl, usedBoth.perm (.swap ..)⟩
          rw [grown]
          exact user.extend more
      | bearer token =>
          exact ⟨.none, .nil, .some (EnvVars.comesTo_secret [] bearerVariable token "Bearer " []),
            rfl, empty.secret bearerVariable token "Bearer "⟩
      | apiKey scheme key =>
          exact ⟨.none, .nil, .some (EnvVars.comesTo_secret [] apiKeyVariable key _ []), rfl,
            empty.secret apiKeyVariable key _⟩
      | custom scheme text =>
          exact ⟨.none, .nil, .some (comesTo_literal _ _), rfl, empty.literal _⟩

def closed (r : Request) (p : Pass) : Pass :=
  if r.cookies.isEmpty || r.hasHeader "Cookie" then p.placed "Authorization"
  else (p.placed "Authorization").add "Cookie" (.literal (cookieValue r.cookies))

theorem closed_eq (r : Request) (p : Pass) :
    p.closed r = { headers := p.headers ++ closing r p, envVars := p.envVars } := by
  obtain ⟨headers, pending?, vars⟩ := p
  unfold closed closing placed
  cases pending? <;> split <;> simp [add]

theorem Mirrors.closed (h : Mirrors basic basicOut p out) (r : Request) :
    Mirrors basic basicOut (p.closed r) (out.closed r) := by
  unfold Pass.closed
  split
  · exact h.placed "Authorization"
  · exact (h.placed "Authorization").addLiteral "Cookie" (cookieValue r.cookies)

end Pass

/-- The extraction that reads secrets and the one that writes them out are passes to the end. -/
theorem mirrors_ofRequest (r : Request) :
    Pass.Mirrors (ofRequest true r).basicAuth? (ofRequest false r).basicAuth?
      { headers := (ofRequest true r).headers, envVars := (ofRequest true r).envVars }
      { headers := (ofRequest false r).headers, envVars := (ofRequest false r).envVars } := by
  have ends := ((Pass.mirrors_credentials r).foldl_step r r.headers).closed r
  rw [Pass.closed_eq, Pass.closed_eq] at ends
  exact ends

theorem headerValues_eq {e out : Extraction}
    (h : HeadersComeTo e.envVars e.headers out.headers) : e.headerValues = out.headerValues := by
  unfold headerValues
  generalize e.headers = headers, out.headers = written at h
  induction h with
  | nil => rfl
  | cons here _ ih =>
      rw [List.map_cons, List.map_cons, ih, here.1, here.2.value?_eq out.envVars]

theorem basicAuthValues?_eq {e out : Extraction}
    (h : BasicAuthComesTo e.envVars e.basicAuth? out.basicAuth?) :
    e.basicAuthValues? = out.basicAuthValues? := by
  unfold basicAuthValues?
  generalize e.basicAuth? = basic, out.basicAuth? = written at h
  cases h with
  | none => rfl
  | some both =>
      simp only [Option.map_some, both.1.value?_eq out.envVars, both.2.value?_eq out.envVars]

theorem literal_of_mem_fragments {e out : Extraction}
    (basicAuth : BasicAuthComesTo e.envVars e.basicAuth? out.basicAuth?)
    (headers : HeadersComeTo e.envVars e.headers out.headers) :
    ∀ f ∈ out.fragments, ∃ text, f = .literal text := by
  unfold fragments
  generalize e.headers = given, out.headers = written at headers
  generalize e.basicAuth? = basic, out.basicAuth? = basicOut at basicAuth
  have ofHeader : ∀ f ∈ written.map Prod.snd, ∃ text, f = .literal text := by
    induction headers with
    | nil => exact fun _ mem => absurd mem List.not_mem_nil
    | cons here _ ih => exact List.forall_mem_cons.2 ⟨here.2.literal, ih⟩
  cases basicAuth with
  | none => exact ofHeader
  | some both =>
      exact List.forall_mem_cons.2
        ⟨both.1.literal, List.forall_mem_cons.2 ⟨both.2.literal, ofHeader⟩⟩

/--
Reading secrets from variables sends what writing them out sends: the same
headers in the same order and the same credentials, once every fragment is
replaced by what it comes to.  Where secrets are written out there are literals
only and no variables; where they are not, every variable is read by just one
fragment.
-/
theorem extraction_written_out (settings : Settings) (r : Request) :
    let reading := Brief.extraction { settings with extractEnvVars := true } r
    let writing := Brief.extraction { settings with extractEnvVars := false } r
    reading.headerValues = writing.headerValues ∧
      reading.basicAuthValues? = writing.basicAuthValues? ∧
      (∀ f ∈ writing.fragments, ∃ text, f = .literal text) ∧ writing.envVars = [] ∧
      (reading.envVars.map Prod.fst).Nodup ∧
      ∀ var ∈ reading.envVars.map Prod.fst,
        reading.fragments.countP (fun f => f.var? == some var) = 1 := by
  intro reading writing
  have mirrors : Pass.Mirrors reading.basicAuth? writing.basicAuth? _ _ := mirrors_ofRequest r
  have headers : HeadersComeTo reading.envVars reading.headers writing.headers := mirrors.headers
  exact ⟨headerValues_eq headers, basicAuthValues?_eq mirrors.basicAuth,
    literal_of_mem_fragments mirrors.basicAuth headers, mirrors.noVars, mirrors.used.distinct,
    fun var mem => mirrors.used.count mem⟩

end Extraction

end RequestScribe
