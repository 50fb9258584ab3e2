import DocStore.Proofs.Script
import DocStore.Proofs.Store.Getter
import Mathlib.Data.List.Perm.Subperm
import Mathlib.Logic.Relation
/-!
# How often a getter is evaluated

`Noted.readWithin` reads a path as `LiveDocument.readWithin` does, and notes which getters are
evaluated and how readings are answered; the notes aside, the two are the same
(`Noted.readWithin_erases`). A `Use` is anything that is done with one document: it is read, tested,
compared, called or written to.

`LiveDocument.evaluated_at_most_once` says that a schema whose getters do not need themselves has
each of them evaluated at most once in the life of a document, whatever is done with it, and that
all readings of its path are answered with what it found. A getter may read other virtual paths
while it is under way. What carries the proof through this is `Noted.Once`: what is remembered of a
path is what was evaluated, and of the paths whose getters are under way nothing is remembered yet.
-/

namespace DocStore

variable {σ ω α β : Type}

/-! ## Notes -/

/-- What is noted when paths are read: a getter was evaluated, or a reading was answered, while the
getters of some paths were under way. -/
inductive Note where
  | evaluated (path : String) (value : Option Value)
  | answered (under : List String) (path : String) (value : Option Value)

namespace Note

/-- The values that the getter of a path found, one for each evaluation. -/
def evaluations (path : String) (notes : List Note) : List (Option Value) :=
  notes.filterMap fun
    | .evaluated other value => if other = path then some value else none
    | .answered .. => none

theorem evaluations_append (path : String) (notes more : List Note) :
    evaluations path (notes ++ more) = evaluations path notes ++ evaluations path more :=
  List.filterMap_append

/-- No path was read while its own getter was under way. -/
def Acyclic (notes : List Note) : Prop :=
  ∀ under path value, .answered under path value ∈ notes → path ∉ under

theorem mem_of_mem_evaluated {notes : List Note} {under : List String} {path evaluated : String}
    {value found : Option Value}
    (h : .answered under path value ∈ notes ++ [.evaluated evaluated found]) :
    .answered under path value ∈ notes := by
  rcases List.mem_append.mp h with hold | hnew
  · exact hold
  · cases List.mem_singleton.mp hnew

theorem acyclic_evaluated {notes : List Note} {path : String} {value : Option Value} :
    Acyclic (notes ++ [.evaluated path value]) ↔ Acyclic notes :=
  ⟨fun h under other found hmem => h under other found (List.mem_append_left _ hmem),
    fun h under other found hmem => h under other found (mem_of_mem_evaluated hmem)⟩

theorem acyclic_answered {notes : List Note} {under : List String} {path : String}
    {value : Option Value} :
    Acyclic (notes ++ [.answered under path value]) ↔ Acyclic notes ∧ path ∉ under := by
  constructor
  · exact fun h =>
      ⟨fun within other found hmem => h within other found (List.mem_append_left _ hmem),
        h under path value (List.mem_append_right _ (List.mem_singleton.mpr rfl))⟩
  · rintro ⟨h, hpath⟩ within other found hmem
    rcases List.mem_append.mp hmem with hold | hnew
    · exact h within other found hold
    · cases List.mem_singleton.mp hnew
      exact hpath

end Note

/-- A live document with the notes of what was read on it. -/
structure Noted (σ : Type) where
  doc : LiveDocument σ
  notes : List Note

/-- A look at a live document that takes notes. -/
abbrev NotedVisit (σ α : Type) := StateT (Noted σ) (StateM σ) α

/-! ## Reading with notes -/

namespace Noted

def forget (s : Noted σ × σ) : LiveDocument σ × σ := (s.1.doc, s.2)

/-- Notes that a reading was answered. -/
def withAnswer (d : Noted σ) (under : List String) (path : String) (value : Option Value) :
    Noted σ :=
  { d with notes := d.notes ++ [.answered under path value] }

/-- Remembers what a getter found, and notes it. -/
def withEvaluation (d : Noted σ) (path : String) (value : Option Value) : Noted σ :=
  ⟨d.doc.remember path value, d.notes ++ [.evaluated path value]⟩

def set (d : Noted σ) (path : String) (value : Value) : Noted σ :=
  { d with doc := d.doc.set path value }

/-- How scripts reach a noted document whose paths are read by `value`. -/
def accessBy (value : String → StateM (Noted σ × σ) (Option Value))
    (write : ω → Document → Document) :
    Access (Noted σ × σ) σ ω where
  value := value
  data s := s.1.doc.data
  write change s := ({ s.1 with doc := { s.1.doc with data := write change s.1.doc.data } }, s.2)
  host := Prod.snd
  setHost host s := (s.1, host)

/-- The value of a path, with at most `depth` more getters under way at a time than those of
`under`. -/
def readWithin : Nat → List String → String → StateM (Noted σ × σ) (Option Value)
  | 0, under, path => fun s =>
    let value := (s.1.doc.known? path).getD none
    (value, s.1.withAnswer under path value, s.2)
  | depth + 1, under, path => fun s =>
    match s.1.doc.known? path, s.1.doc.model.schema.getter? path with
    | none, some getter =>
      let access := accessBy (readWithin depth (path :: under)) fun change _ => Empty.elim change
      let (value, d, host) := Script.run access getter s
      (value, (d.withEvaluation path value).withAnswer under path value, host)
    | value, _ => (value.getD none, s.1.withAnswer under path (value.getD none), s.2)

/-- The value of a path; no getter is under way. -/
def read (path : String) : StateM (Noted σ × σ) (Option Value) := fun s =>
  readWithin s.1.doc.model.schema.virtualPaths.length [] path s

def get (path : String) : NotedVisit σ (Option Value) := fun d host =>
  let (value, d, host) := read path (d, host)
  ((value, d), host)

def run (reading : Reading σ α) : NotedVisit σ α := fun d host =>
  let (a, d, host) := Script.run (accessBy read fun change _ => Empty.elim change) reading (d, host)
  ((a, d), host)

def call (name : String) (arguments : List Value) : NotedVisit σ (Except StoreError Value) :=
  fun d =>
  match d.doc.model.schema.methods.get? name with
  | some method => run (method arguments) d
  | none => return (.error (.invalidMethod (.noMethod name)), d)

end Noted

/-! ## Uses of a document -/

/-- A use of one live document: it is read, tested by a compiled query, compared by a compiled sort
with another document on either side or with itself, a method is called on it, or a value is set. -/
inductive Use (σ : Type) where
  | get (path : String)
  | test (query : Predicate σ)
  | before (sort : SortOrder σ) (other : LiveDocument σ)
  | after (sort : SortOrder σ) (other : LiveDocument σ)
  | beside (sort : SortOrder σ)
  | call (name : String) (arguments : List Value)
  | set (path : String) (value : Value)

namespace Use

inductive Answer where
  | value (found : Option Value)
  | verdict (holds : Bool)
  | order (order : Ordering)
  | result (result : Except StoreError Value)
  | done

/-- Reads the one record that a state holds. -/
def ofState {τ : Type} (read : String → StateM τ (Option Value)) (path : String) (_ : Unit) :
    StateM τ (Option Value × Unit) := fun state =>
  let (value, state) := read path state
  ((value, ()), state)

/-- Performs a use. -/
def perform : Use σ → Visit σ Answer
  | .get path => .value <$> LiveDocument.get path
  | .test query => .verdict <$> LiveDocument.run query
  | .before sort other => fun doc host =>
    let ((order, doc, _), host) := sort.orderM LiveDocument.get doc other host
    ((.order order, doc), host)
  | .after sort other => fun doc host =>
    let ((order, _, doc), host) := sort.orderM LiveDocument.get other doc host
    ((.order order, doc), host)
  | .beside sort => fun doc host =>
    let ((order, _), doc, host) := sort.orderM (ofState LiveDocument.read) () () (doc, host)
    ((.order order, doc), host)
  | .call name arguments => .result <$> LiveDocument.call name arguments
  | .set path value => fun doc host => ((.done, doc.set path value), host)

/-- Performs a use and takes notes of the document; what is read on another document is not among
them. -/
def performNoted : Use σ → NotedVisit σ Answer
  | .get path => .value <$> Noted.get path
  | .test query => .verdict <$> Noted.run query
  | .before sort other => fun d host =>
    let ((order, d, _), host) := sort.orderM Noted.get d ⟨other, []⟩ host
    ((.order order, d), host)
  | .after sort other => fun d host =>
    let ((order, _, d), host) := sort.orderM Noted.get ⟨other, []⟩ d host
    ((.order order, d), host)
  | .beside sort => fun d host =>
    let ((order, _), d, host) := sort.orderM (ofState Noted.read) () () (d, host)
    ((.order order, d), host)
  | .call name arguments => .result <$> Noted.call name arguments
  | .set path value => fun d host => ((.done, d.set path value), host)

end Use

/-! ## Without the notes -/

namespace Noted

section

variable {d : Noted σ} {path : String}

theorem readWithin_of_known {found : Option Value} (h : d.doc.known? path = some found)
    (depth : Nat) (under : List String) (host : σ) :
    readWithin depth under path (d, host) = (found, d.withAnswer under path found, host) := by
  cases depth <;> simp only [readWithin, h, Option.getD_some]

/-- A path that is not known is answered with nothing if no more getters may be under way. -/
theorem readWithin_zero_of_unknown (h : d.doc.known? path = none) (under : List String) (host : σ) :
    readWithin 0 under path (d, host) = (none, d.withAnswer under path none, host) := by
  simp only [readWithin, h, Option.getD_none]

/-- Reading a path that is not known runs its getter, and remembers what it finds. -/
theorem readWithin_succ_of_unknown (h : d.doc.known? path = none) (depth : Nat)
    (under : List String) (host : σ) :
    ∃ getter, d.doc.model.schema.getter? path = some getter ∧
      ∃ value d' host', Script.run (accessBy (readWithin depth (path :: under)) fun change _ =>
          Empty.elim change) getter (d, host) = (value, d', host') ∧
        readWithin (depth + 1) under path (d, host) =
          (value, (d'.withEvaluation path value).withAnswer under path value, host') := by
  obtain ⟨getter, hgetter⟩ := LiveDocument.exists_getter_of_unknown h
  refine ⟨getter, hgetter, _, _, _, rfl, ?_⟩
  simp only [readWithin, h, hgetter]

end

/-- A script is the same without the notes, if its reads are. -/
theorem script_erases {read : String → StateM (LiveDocument σ × σ) (Option Value)}
    {noted : String → StateM (Noted σ × σ) (Option Value)}
    (hread : ∀ path, Erases forget (noted path) (read path)) (reading : Reading σ α) :
    Erases forget (Script.run (accessBy noted fun change _ => Empty.elim change) reading)
      (Script.run (LiveDocument.accessBy read fun change _ => Empty.elim change) reading) :=
  Script.run_erases (LiveDocument.accessBy read fun change _ => Empty.elim change)
    (accessBy noted fun change _ => Empty.elim change) forget hread (fun _ => rfl)
    (fun change => change.elim) (fun _ => rfl) (fun _ _ => rfl) reading

/-- **Without the notes, a reading is the reading of the document.** -/
theorem readWithin_erases (depth : Nat) (under : List String) (path : String) :
    Erases (@forget σ) (readWithin depth under path) (LiveDocument.readWithin depth path) := by
  induction depth generalizing under path with
  | zero => exact fun s => rfl
  | succ depth ih =>
    rintro ⟨d, host⟩
    cases hknown : d.doc.known? path with
    | some found =>
      rw [readWithin_of_known hknown]
      exact LiveDocument.readWithin_of_known hknown _
    | none =>
      obtain ⟨getter, hgetter, value, d', host', hrun, hread⟩ :=
        readWithin_succ_of_unknown hknown depth under host
      obtain ⟨getter₁, hgetter₁, value₁, doc, host₁, hrun₁, hread₁⟩ :=
        LiveDocument.readWithin_of_unknown
          (show (d.doc, host).1.known? path = none from hknown) depth
      cases hgetter.symm.trans hgetter₁
      have herases := script_erases (ih (path :: under)) getter (d, host)
      rw [hrun] at herases
      cases hrun₁.symm.trans herases
      rw [hread]
      exact hread₁

/-- A reading keeps the model. -/
theorem model_readWithin (depth : Nat) (under : List String) (path : String) (s : Noted σ × σ) :
    (readWithin depth under path s).2.1.doc.model = s.1.doc.model := by
  have hkeeps := LiveDocument.readWithin_keeps depth path (forget s)
  rw [readWithin_erases depth under path s] at hkeeps
  exact hkeeps.model

/-- The second look is the first one without its notes. -/
def ErasesTo (noted : NotedVisit σ α) (visit : Visit σ α) : Prop :=
  ∀ d host, visit d.doc host = (((noted d host).1.1, (noted d host).1.2.doc), (noted d host).2)

theorem ErasesTo.map {noted : NotedVisit σ α} {visit : Visit σ α}
    (h : ErasesTo noted visit) (f : α → β) :
    ErasesTo (f <$> noted) (f <$> visit) := by
  intro d host
  show ((f (visit d.doc host).1.1, (visit d.doc host).1.2), (visit d.doc host).2) = _
  rw [h d host]
  rfl

theorem ErasesTo.bind {noted : NotedVisit σ α} {visit : Visit σ α} {noted' : α → NotedVisit σ β}
    {visit' : α → Visit σ β} (h : ErasesTo noted visit) (h' : ∀ a, ErasesTo (noted' a) (visit' a)) :
    ErasesTo (noted >>= noted') (visit >>= visit') := by
  intro d host
  show visit' (visit d.doc host).1.1 (visit d.doc host).1.2 (visit d.doc host).2 = _
  rw [h d host]
  exact h' _ _ _

theorem read_erases (path : String) : Erases (@forget σ) (read path) (LiveDocument.read path) :=
  fun s => readWithin_erases _ _ path s

theorem get_erases (path : String) :
    ErasesTo (get path : NotedVisit σ (Option Value)) (LiveDocument.get path) := fun d host =>
  congrArg (fun run : Option Value × LiveDocument σ × σ => ((run.1, run.2.1), run.2.2))
    (read_erases path (d, host))

theorem run_erases (reading : Reading σ α) :
    ErasesTo (run reading) (LiveDocument.run reading) := fun d host =>
  congrArg (fun run : α × LiveDocument σ × σ => ((run.1, run.2.1), run.2.2))
    (script_erases read_erases reading (d, host))

theorem call_erases (name : String) (arguments : List Value) :
    ErasesTo (call name arguments : NotedVisit σ (Except StoreError Value))
      (LiveDocument.call name arguments) := by
  intro d host
  show (match d.doc.model.schema.methods.get? name with
    | some method => LiveDocument.run (method arguments)
    | none => return .error (.invalidMethod (.noMethod name))) d.doc host = _
  cases hmethod : d.doc.model.schema.methods.get? name with
  | some method =>
    simp only [call, hmethod]
    exact run_erases _ d host
  | none =>
    simp only [call, hmethod]
    rfl

/-- **Without the notes, a use is the use of the document.** -/
theorem perform_erases (use : Use σ) : ErasesTo use.performNoted use.perform := by
  cases use with
  | get path => exact (get_erases path).map _
  | test query => exact (run_erases query).map _
  | before sort other =>
    intro d host
    have h := SortOrder.orderByM_erases id doc get_erases sort.keys d ⟨other, []⟩ host
    exact congrArg (fun run : (Ordering × LiveDocument σ × LiveDocument σ) × σ =>
      ((Use.Answer.order run.1.1, run.1.2.1), run.2)) h
  | after sort other =>
    intro d host
    have h := SortOrder.orderByM_erases id doc get_erases sort.keys ⟨other, []⟩ d host
    exact congrArg (fun run : (Ordering × LiveDocument σ × LiveDocument σ) × σ =>
      ((Use.Answer.order run.1.1, run.1.2.2), run.2)) h
  | beside sort =>
    intro d host
    have hread (path : String) (one : Unit) (s : Noted σ × σ) :
        Use.ofState LiveDocument.read path one (forget s) =
          (((Use.ofState read path one s).1.1, one), forget (Use.ofState read path one s).2) :=
      congrArg (fun run : Option Value × LiveDocument σ × σ => ((run.1, one), run.2))
        (read_erases path s)
    have h := SortOrder.orderByM_erases forget id hread sort.keys () () (d, host)
    exact congrArg (fun run : (Ordering × Unit × Unit) × LiveDocument σ × σ =>
      ((Use.Answer.order run.1.1, run.2.1), run.2.2)) h
  | call name arguments => exact (call_erases name arguments).map _
  | set path value => exact fun d host => rfl

theorem mapM_perform_erases (uses : List (Use σ)) :
    ErasesTo (uses.mapM Use.performNoted) (uses.mapM Use.perform) := by
  induction uses with
  | nil => exact fun d host => rfl
  | cons use uses ih =>
    rw [List.mapM_cons, List.mapM_cons]
    exact (perform_erases use).bind fun answer => ih.bind fun answers d host => rfl

/-! ## What uses preserve -/

/-- What the reads of a script preserve, the script preserves. -/
theorem script_preserves {read : String → StateM (Noted σ × σ) (Option Value)} {P : Noted σ → Prop}
    (reading : Reading σ α)
    (hread : ∀ path, reading.MayRead path → ∀ s, P s.1 → P (read path s).2.1)
    {s : Noted σ × σ} (h : P s.1) :
    P (Script.run (accessBy read fun change _ => Empty.elim change) reading s).2.1 :=
  Script.run_preserves (P := fun s : Noted σ × σ => P s.1) hread (fun change => change.elim)
    (fun _ _ hs => hs) h

section

variable {P : Noted σ → Prop} (hread : ∀ path s, P s.1 → P (read path s).2.1)
  (hset : ∀ d path value, P d → P (d.set path value))

include hread hset

/-- What reading and setting preserve, every use preserves. -/
theorem performNoted_preserves (use : Use σ) {d : Noted σ} (h : P d) (host : σ) :
    P (use.performNoted d host).1.2 := by
  cases use with
  | get path => exact hread path (d, host) h
  | test query => exact script_preserves query (fun path _ => hread path) (s := (d, host)) h
  | before sort other =>
    exact SortOrder.orderByM_preserves get (P := fun d _ _ => P d)
      (fun path a _ t ha => hread path (a, t) ha) (fun _ _ _ _ ha => ha) sort.keys h
  | after sort other =>
    exact SortOrder.orderByM_preserves get (P := fun _ d _ => P d) (fun _ _ _ _ hb => hb)
      (fun path _ b t hb => hread path (b, t) hb) sort.keys h
  | beside sort =>
    exact SortOrder.orderByM_preserves (Use.ofState read) (P := fun _ _ s => P s.1)
      (fun path _ _ s hs => hread path s hs) (fun path _ _ s hs => hread path s hs) sort.keys
      (a := ()) (b := ()) (t := (d, host)) h
  | call name arguments =>
    show P (call name arguments d host).1.2
    cases hmethod : d.doc.model.schema.methods.get? name with
    | some method =>
      simp only [call, hmethod]
      exact script_preserves (method arguments) (fun path _ => hread path) (s := (d, host)) h
    | none =>
      simp only [call, hmethod]
      exact h
  | set path value => exact hset d path value h

omit hread hset in
theorem run_mapM_cons (use : Use σ) (uses : List (Use σ)) (d : Noted σ) (host : σ) :
    (use :: uses).mapM Use.performNoted d host =
      (let first := use.performNoted d host
      let rest := uses.mapM Use.performNoted first.1.2 first.2
      ((first.1.1 :: rest.1.1, rest.1.2), rest.2)) := by
  rw [List.mapM_cons]
  rfl

theorem mapM_performNoted_preserves (uses : List (Use σ)) {d : Noted σ} (h : P d) (host : σ) :
    P (uses.mapM Use.performNoted d host).1.2 := by
  induction uses generalizing d host with
  | nil => exact h
  | cons use uses ih =>
    rw [run_mapM_cons]
    exact ih (performNoted_preserves hread hset use h host) _

end

/-- A reading keeps the notes. -/
theorem mem_readWithin {note : Note} (depth : Nat) (under : List String) (path : String)
    {s : Noted σ × σ} (h : note ∈ s.1.notes) :
    note ∈ (readWithin depth under path s).2.1.notes := by
  induction depth generalizing under path s with
  | zero => exact List.mem_append_left _ h
  | succ depth ih =>
    obtain ⟨d, host⟩ := s
    cases hknown : d.doc.known? path with
    | some found =>
      rw [readWithin_of_known hknown]
      exact List.mem_append_left _ h
    | none =>
      obtain ⟨getter, -, value, d', host', hrun, hread⟩ :=
        readWithin_succ_of_unknown hknown depth under host
      have hmem := script_preserves (P := fun d => note ∈ d.notes) getter
        (fun below _ _ => ih (path :: under) below) (s := (d, host)) h
      rw [hrun] at hmem
      rw [hread]
      exact List.mem_append_left _ (List.mem_append_left _ hmem)

/-- A reading is noted with its answer. -/
theorem answered_mem_readWithin (depth : Nat) (under : List String) (path : String)
    (s : Noted σ × σ) :
    .answered under path (readWithin depth under path s).1 ∈
      (readWithin depth under path s).2.1.notes := by
  have hlast (notes : List Note) (note : Note) : note ∈ notes ++ [note] :=
    List.mem_append_right _ (List.mem_singleton.mpr rfl)
  obtain ⟨d, host⟩ := s
  cases depth with
  | zero => exact hlast _ _
  | succ depth =>
    cases hknown : d.doc.known? path with
    | some found =>
      rw [readWithin_of_known hknown]
      exact hlast _ _
    | none =>
      obtain ⟨getter, -, value, d', host', -, hread⟩ :=
        readWithin_succ_of_unknown hknown depth under host
      rw [hread]
      exact hlast _ _

/-- What a document answers when it is asked for a path is noted. -/
theorem answered_of_get (uses : List (Use σ)) (d : Noted σ) (host : σ) {path : String}
    {found : Option Value}
    (h : (Use.get path, Use.Answer.value found) ∈
      uses.zip (uses.mapM Use.performNoted d host).1.1) :
    .answered [] path found ∈ (uses.mapM Use.performNoted d host).1.2.notes := by
  induction uses generalizing d host with
  | nil => cases h
  | cons use uses ih =>
    rw [run_mapM_cons] at h ⊢
    rcases List.mem_cons.mp h with heq | hrest
    · obtain ⟨rfl, hanswer⟩ := Prod.mk.inj heq
      have hfound : found = (read path (d, host)).1 := Use.Answer.value.inj hanswer
      refine mapM_performNoted_preserves (P := fun d => .answered [] path found ∈ d.notes)
        (fun path s => mem_readWithin _ [] path) (fun _ _ _ hmem => hmem) uses ?_ _
      rw [hfound]
      exact answered_mem_readWithin _ [] path (d, host)
    · exact ih _ _ hrest

/-! ## At most one evaluation -/

/-- The getter of a virtual path was evaluated once if the document remembers its value, and not at
all otherwise; what is remembered is what was answered. Nothing is remembered of the paths in
`under`, whose getters are under way. -/
structure Once (under : List String) (d : Noted σ) : Prop where
  evaluations (path : String) (getter : Getter σ) : d.doc.model.schema.getter? path = some getter →
    Note.evaluations path d.notes = (d.doc.computed.get? path).toList
  answers (path : String) (getter : Getter σ) : d.doc.model.schema.getter? path = some getter →
    ∀ within value, .answered within path value ∈ d.notes → d.doc.computed.get? path = some value
  waiting (path : String) : path ∈ under → d.doc.computed.get? path = none

/-- What is known of a virtual path is what is remembered. -/
theorem known?_of_getter {doc : LiveDocument σ} {path : String} {getter : Getter σ}
    (h : doc.model.schema.getter? path = some getter) :
    doc.known? path = doc.computed.get? path := by
  rw [LiveDocument.known?, h]

/-- A reading of a known path is answered. -/
theorem Once.withAnswer {under : List String} {d : Noted σ} (h : Once under d) {path : String}
    {found : Option Value} (hknown : d.doc.known? path = some found) (within : List String) :
    Once under (d.withAnswer within path found) where
  evaluations other getter hgetter := by
    have hold := h.evaluations other getter hgetter
    rw [Noted.withAnswer, Note.evaluations_append, hold]
    exact List.append_nil _
  answers other getter hgetter within' value hmem := by
    rcases List.mem_append.mp hmem with hold | hnew
    · exact h.answers other getter hgetter within' value hold
    · cases List.mem_singleton.mp hnew
      rw [← hknown]
      exact (known?_of_getter hgetter).symm
  waiting := h.waiting

/-- A getter that was under way comes to its end. -/
theorem Once.withEvaluation {under : List String} {d : Noted σ} {path : String}
    (h : Once (path :: under) d) (hpath : path ∉ under) (value : Option Value) :
    Once under (d.withEvaluation path value) := by
  have hwaiting := h.waiting path List.mem_cons_self
  have hsame : (d.withEvaluation path value).doc.computed.get? path = some value :=
    (OrderedMap.get?_insert _ _ _ _).trans (if_pos rfl)
  have hother {other : String} (hne : other ≠ path) :
      (d.withEvaluation path value).doc.computed.get? other = d.doc.computed.get? other :=
    (OrderedMap.get?_insert _ _ _ _).trans (if_neg hne)
  refine ⟨fun other getter hgetter => ?_, fun other getter hgetter within found hmem => ?_,
    fun other hmem => ?_⟩
  · have happend : Note.evaluations other (d.withEvaluation path value).notes =
        (d.doc.computed.get? other).toList ++ Note.evaluations other [.evaluated path value] := by
      have hold := h.evaluations other getter hgetter
      rw [← hold, ← Note.evaluations_append]
      rfl
    rw [happend]
    by_cases heq : other = path
    · have hvalue : Note.evaluations path [.evaluated path value] = [value] :=
        List.filterMap_cons_some (if_pos rfl)
      rw [heq, hsame, hwaiting, hvalue]
      rfl
    · have hnone : Note.evaluations other [.evaluated path value] = [] :=
        List.filterMap_cons_none (if_neg (Ne.symm heq))
      rw [hother heq, hnone, List.append_nil]
  · -- A path that was answered is remembered, so it is not the one that was waiting.
    have hanswer := h.answers other getter hgetter within found (Note.mem_of_mem_evaluated hmem)
    rw [hother, hanswer]
    rintro rfl
    rw [hwaiting] at hanswer
    cases hanswer
  · rw [hother fun heq => hpath (heq ▸ hmem)]
    exact h.waiting other (List.mem_cons_of_mem _ hmem)

/-- There is room for as many getters as there are virtual paths that are not under way. -/
structure Room (schema : Schema σ) (depth : Nat) (under : List String) : Prop where
  enough : schema.virtualPaths.length ≤ depth + under.length
  nodup : under.Nodup
  virtual : under ⊆ schema.virtualPaths

theorem Room.enter {schema : Schema σ} {depth : Nat} {under : List String} {path : String}
    (h : Room schema (depth + 1) under) (hpath : path ∉ under) {getter : Getter σ}
    (hgetter : schema.getter? path = some getter) : Room schema depth (path :: under) where
  enough := by
    rw [List.length_cons, ← Nat.add_assoc, Nat.add_right_comm]
    exact h.enough
  nodup := List.nodup_cons.mpr ⟨hpath, h.nodup⟩
  virtual := List.cons_subset.mpr ⟨Schema.mem_virtualPaths hgetter, h.virtual⟩

/-- Where no more getters may be under way, all of them are. -/
theorem Room.mem_of_zero {schema : Schema σ} {under : List String} (h : Room schema 0 under)
    {path : String} {getter : Getter σ} (hgetter : schema.getter? path = some getter) :
    path ∈ under := by
  by_contra hpath
  have hsub : path :: under ⊆ schema.virtualPaths :=
    List.cons_subset.mpr ⟨Schema.mem_virtualPaths hgetter, h.virtual⟩
  have hlength := (List.subperm_of_subset (List.nodup_cons.mpr ⟨hpath, h.nodup⟩) hsub).length_le
  have henough := h.enough
  rw [List.length_cons] at hlength
  omega

/-- A document of a schema on which each getter was evaluated at most once, unless one was read
while it was under way itself. -/
structure Lawful (schema : Schema σ) (under : List String) (d : Noted σ) : Prop where
  schema_eq : d.doc.model.schema = schema
  once : Note.Acyclic d.notes → Once under d

/-- A getter runs with one path more under way, of which nothing is remembered yet. -/
theorem Lawful.enter {schema : Schema σ} {under : List String} {d : Noted σ}
    (h : Lawful schema under d) {path : String} (hknown : d.doc.known? path = none)
    {getter : Getter σ} (hgetter : d.doc.model.schema.getter? path = some getter) :
    Lawful schema (path :: under) d where
  schema_eq := h.schema_eq
  once hacyclic := by
    have honce := h.once hacyclic
    refine ⟨honce.evaluations, honce.answers, List.forall_mem_cons.mpr ⟨?_, honce.waiting⟩⟩
    rw [← known?_of_getter hgetter, hknown]

/-- **A reading evaluates a getter only if nothing is remembered of its path, and remembers what it
finds.** -/
theorem lawful_readWithin {schema : Schema σ} {depth : Nat} {under : List String}
    (hroom : Room schema depth under) (path : String) {s : Noted σ × σ}
    (h : Lawful schema under s.1) :
    Lawful schema under (readWithin depth under path s).2.1 := by
  refine ⟨(model_readWithin depth under path s ▸ h.schema_eq :), fun hacyclic => ?_⟩
  induction depth generalizing under path s with
  | zero =>
    obtain ⟨d, host⟩ := s
    cases hknown : d.doc.known? path with
    | some found =>
      rw [readWithin_of_known hknown] at hacyclic ⊢
      exact (h.once (Note.acyclic_answered.mp hacyclic).1).withAnswer hknown under
    | none =>
      obtain ⟨getter, hgetter⟩ := LiveDocument.exists_getter_of_unknown hknown
      rw [readWithin_zero_of_unknown hknown] at hacyclic
      exact absurd (hroom.mem_of_zero (h.schema_eq ▸ hgetter)) (Note.acyclic_answered.mp hacyclic).2
  | succ depth ih =>
    obtain ⟨d, host⟩ := s
    cases hknown : d.doc.known? path with
    | some found =>
      rw [readWithin_of_known hknown] at hacyclic ⊢
      exact (h.once (Note.acyclic_answered.mp hacyclic).1).withAnswer hknown under
    | none =>
      obtain ⟨getter, hgetter, value, d', host', hrun, hread⟩ :=
        readWithin_succ_of_unknown hknown depth under host
      rw [hread] at hacyclic ⊢
      obtain ⟨hevaluated, hpath⟩ := Note.acyclic_answered.mp hacyclic
      have hbelow := hroom.enter hpath (h.schema_eq ▸ hgetter)
      have hend := script_preserves (P := Lawful schema (path :: under)) getter
        (fun below _ s hs => ⟨(model_readWithin _ _ _ s ▸ hs.schema_eq :), ih hbelow below hs⟩)
        (s := (d, host)) (h.enter hknown hgetter)
      rw [hrun] at hend
      have hgetter' : d'.doc.model.schema.getter? path = some getter := by
        rw [hend.schema_eq, ← h.schema_eq]
        exact hgetter
      have honce := hend.once (Note.acyclic_evaluated.mp hevaluated)
      exact (honce.withEvaluation hpath value).withAnswer
        (LiveDocument.known?_remember hgetter' value) under

end Noted

/-! ## Getters that do not need themselves -/

namespace Schema

/-- Whatever is done with a document, no getter reads its own path, directly or through other
getters. (A reading has room for all getters to be under way, so one that needs itself does come to
its own path.) -/
def Acyclic (schema : Schema σ) : Prop :=
  ∀ (doc : LiveDocument σ) (uses : List (Use σ)) (host : σ),
    doc.model.schema = schema → doc.computed = [] →
    Note.Acyclic (uses.mapM Use.performNoted ⟨doc, []⟩ host).1.2.notes

/-- The getter of the first path may read the second one. -/
def Needs (schema : Schema σ) (path below : String) : Prop :=
  ∃ getter, schema.getter? path = some getter ∧ getter.MayRead below

end Schema

/-- If the getters under way need the path, and no path needs itself, then no path is read while its
own getter is under way. -/
theorem Noted.acyclic_readWithin {schema : Schema σ}
    (hneeds : ∀ path, ¬ Relation.TransGen schema.Needs path path) (depth : Nat)
    {under : List String} {path : String}
    (hunder : ∀ above ∈ under, Relation.TransGen schema.Needs above path) {s : Noted σ × σ}
    (hschema : s.1.doc.model.schema = schema) (h : Note.Acyclic s.1.notes) :
    Note.Acyclic (readWithin depth under path s).2.1.notes := by
  have hpath {under : List String} {path : String}
      (hunder : ∀ above ∈ under, Relation.TransGen schema.Needs above path) : path ∉ under :=
    fun hmem => hneeds path (hunder path hmem)
  induction depth generalizing under path s with
  | zero => exact Note.acyclic_answered.mpr ⟨h, hpath hunder⟩
  | succ depth ih =>
    obtain ⟨d, host⟩ := s
    cases hknown : d.doc.known? path with
    | some found =>
      rw [readWithin_of_known hknown]
      exact Note.acyclic_answered.mpr ⟨h, hpath hunder⟩
    | none =>
      obtain ⟨getter, hgetter, value, d', host', hrun, hread⟩ :=
        readWithin_succ_of_unknown hknown depth under host
      have hbelow (below : String) (hmay : getter.MayRead below) :
          ∀ above ∈ path :: under, Relation.TransGen schema.Needs above below := by
        have hneed : schema.Needs path below := ⟨getter, hschema ▸ hgetter, hmay⟩
        exact List.forall_mem_cons.mpr
          ⟨.single hneed, fun above hmem => (hunder above hmem).tail hneed⟩
      have hend := script_preserves
        (P := fun d => d.doc.model.schema = schema ∧ Note.Acyclic d.notes) getter
        (fun below hmay s hs =>
          ⟨(model_readWithin _ _ _ s ▸ hs.1 :), ih (hbelow below hmay) hs.1 hs.2⟩)
        (s := (d, host)) ⟨hschema, h⟩
      rw [hrun] at hend
      rw [hread]
      exact Note.acyclic_answered.mpr ⟨Note.acyclic_evaluated.mpr hend.2, hpath hunder⟩

/-- **Getters do not read themselves if, as they are written, none may.** -/
theorem Schema.acyclic_of_needs {schema : Schema σ}
    (h : ∀ path, ¬ Relation.TransGen schema.Needs path path) : schema.Acyclic := by
  intro doc uses host hschema _
  refine (Noted.mapM_performNoted_preserves
    (P := fun d => d.doc.model.schema = schema ∧ Note.Acyclic d.notes) (fun path s hs => ?_)
    (fun d path value hd => hd) uses
    ⟨hschema, fun _ _ _ hmem => (List.not_mem_nil hmem).elim⟩ host).2
  exact ⟨(Noted.model_readWithin _ _ _ s ▸ hs.1 :),
    Noted.acyclic_readWithin h _ (fun _ hmem => (List.not_mem_nil hmem).elim) hs.1 hs.2⟩

/-- Getters do not read themselves if each may read only what has a smaller rank. -/
theorem Schema.acyclic_of_rank {schema : Schema σ} (rank : String → Nat)
    (h : ∀ path below, schema.Needs path below → rank below < rank path) : schema.Acyclic := by
  refine acyclic_of_needs fun path hcycle => ?_
  have hranks : Relation.TransGen (· > ·) (rank path) (rank path) := hcycle.lift rank h
  rw [Relation.transGen_eq_self] at hranks
  exact Nat.lt_irrefl _ hranks

/-! ## The life of a document -/

/-- A document that remembers nothing, without notes. -/
theorem Noted.lawful_of_fresh {doc : LiveDocument σ} (hfresh : doc.computed = []) :
    Lawful doc.model.schema [] ⟨doc, []⟩ := by
  refine ⟨rfl, fun _ => ⟨fun path _ _ => ?_, fun _ _ _ _ _ hmem => (List.not_mem_nil hmem).elim,
    fun _ hmem => (List.not_mem_nil hmem).elim⟩⟩
  show [] = (doc.computed.get? path).toList
  rw [hfresh]
  rfl

theorem Noted.lawful_mapM_performNoted {schema : Schema σ} {d : Noted σ} (h : Lawful schema [] d)
    (uses : List (Use σ)) (host : σ) :
    Lawful schema [] (uses.mapM Use.performNoted d host).1.2 := by
  refine mapM_performNoted_preserves (fun path s hs => ?_) (fun d path value hd => ?_) uses h host
  · have hroom : Room schema s.1.doc.model.schema.virtualPaths.length [] :=
      ⟨Nat.le_of_eq (by rw [hs.schema_eq]; rfl), List.nodup_nil, List.nil_subset _⟩
    exact lawful_readWithin hroom path hs
  · -- Setting a value leaves what is remembered as it is.
    refine ⟨hd.schema_eq, fun hacyclic => ?_⟩
    have honce := hd.once hacyclic
    exact ⟨honce.evaluations, honce.answers, honce.waiting⟩

/-- **A getter is evaluated at most once in the life of a document.** Whatever is done with a
document that remembers nothing at first, the notes tell of at most one evaluation of each getter,
and all readings of its path, by getters, queries, sorts and methods or from without, are answered
with the value of this evaluation. A copy remembers nothing again. -/
theorem LiveDocument.evaluated_at_most_once {doc : LiveDocument σ}
    (hacyclic : doc.model.schema.Acyclic) (hfresh : doc.computed = [])
    (uses : List (Use σ)) (host : σ) :
    ∃ answers doc' notes host',
      uses.mapM Use.perform doc host = ((answers, doc'), host') ∧
      uses.mapM Use.performNoted ⟨doc, []⟩ host = ((answers, ⟨doc', notes⟩), host') ∧
      (∀ path getter, doc.model.schema.getter? path = some getter →
        (Note.evaluations path notes).length ≤ 1 ∧
        (∀ under value, .answered under path value ∈ notes →
          Note.evaluations path notes = [value]) ∧
        ∀ value, (Use.get path, Use.Answer.value value) ∈ uses.zip answers →
          Note.evaluations path notes = [value]) ∧
      doc'.copy.computed = [] := by
  have herases := Noted.mapM_perform_erases uses ⟨doc, []⟩ host
  have hlawful := Noted.lawful_mapM_performNoted (Noted.lawful_of_fresh hfresh) uses host
  have honce := hlawful.once (hacyclic doc uses host rfl hfresh)
  have hschema := hlawful.schema_eq
  have hget (path : String) (value : Option Value) :=
    @Noted.answered_of_get σ uses ⟨doc, []⟩ host path value
  rcases hrun : uses.mapM Use.performNoted ⟨doc, []⟩ host with ⟨⟨answers, doc', notes⟩, host'⟩
  rw [hrun] at herases honce hget hschema
  refine ⟨answers, doc', notes, host', herases, rfl, fun path getter hgetter => ?_, rfl⟩
  have hgetter' : doc'.model.schema.getter? path = some getter := hschema ▸ hgetter
  have hone : Note.evaluations path notes = (doc'.computed.get? path).toList :=
    honce.evaluations path getter hgetter'
  have hanswer (under : List String) (value : Option Value)
      (hmem : .answered under path value ∈ notes) :
      Note.evaluations path notes = [value] := by
    have hremembered : doc'.computed.get? path = some value :=
      honce.answers path getter hgetter' under value hmem
    rw [hone, hremembered]
    rfl
  refine ⟨?_, hanswer, fun value hmem => hanswer [] value (hget path value hmem)⟩
  rw [hone]
  exact Option.length_toList_le

/-! ## Greetings -/

namespace LiveDocument

/-- Greets a person, and counts how often it did. -/
def greet : Getter Nat :=
  .host fun calls => .setHost (calls + 1) (.read "first" fun
    | some (.string first) => .done (some (.string ("hello " ++ first)))
    | _ => .done none)

/-- Greets louder. -/
def shout : Getter Nat :=
  .read "greeting" fun
    | some (.string greeting) => .done (some (.string (greeting ++ "!")))
    | _ => .done none

def personHandle : ModelHandle Nat :=
  ⟨0, "Person",
    (((Schema.empty.register "first" (.scalar "first" .string .none)).declareVirtual "greeting"
      greet none).declareVirtual "shout" shout none).ensureId⟩

def person : LiveDocument Nat :=
  ofData personHandle [("_id", .string "a"), ("first", .string "ann")]

/-- The louder greeting reads the greeting, a query and a sort look at both, and the name is
changed. -/
def personUses : List (Use Nat) :=
  [.get "shout", .get "greeting", .test (.read "greeting" fun found => .done found.isSome),
    .set "first" (.string "bob"), .beside (personHandle.schema.sortOrder [⟨"shout", .ascending⟩]),
    .get "greeting"]

theorem getter?_person {path : String} {getter : Getter Nat}
    (h : personHandle.schema.getter? path = some getter) :
    path = "greeting" ∧ getter = greet ∨ path = "shout" ∧ getter = shout := by
  have hpath : path ∈ ["greeting", "shout"] := Schema.mem_virtualPaths h
  rcases List.mem_pair.mp hpath with rfl | rfl
  · exact .inl ⟨rfl, (Option.some.inj h).symm⟩
  · exact .inr ⟨rfl, (Option.some.inj h).symm⟩

/-- The name is below the greeting, and the greeting below the louder one. -/
def personRank (path : String) : Nat :=
  if path = "shout" then 2 else if path = "greeting" then 1 else 0

theorem acyclic_person : personHandle.schema.Acyclic := by
  refine Schema.acyclic_of_rank personRank fun path below ⟨getter, hgetter, hmay⟩ => ?_
  rcases getter?_person hgetter with ⟨rfl, rfl⟩ | ⟨rfl, rfl⟩
  · cases hmay with
    | host calls hmay =>
      cases hmay with
      | setHost hmay =>
        cases hmay with
        | here => decide
        | read answer hmay =>
          dsimp only at hmay
          split at hmay <;> cases hmay
  · cases hmay with
    | here => decide
    | read answer hmay =>
      dsimp only at hmay
      split at hmay <;> cases hmay

theorem evaluated_at_most_once_person :
    ∃ answers doc' notes host',
      personUses.mapM Use.perform person 0 = ((answers, doc'), host') ∧ host' = 1 ∧
      personUses.mapM Use.performNoted ⟨person, []⟩ 0 = ((answers, ⟨doc', notes⟩), host') ∧
      (Note.evaluations "greeting" notes).length ≤ 1 ∧
      (∀ under value, .answered under "greeting" value ∈ notes →
        Note.evaluations "greeting" notes = [value]) ∧
      doc'.copy.computed = [] := by
  obtain ⟨answers, doc', notes, host', hperform, hnoted, hvirtual, hcopy⟩ :=
    evaluated_at_most_once (show person.model.schema.Acyclic from acyclic_person) rfl personUses 0
  have hcalls : (personUses.mapM Use.perform person 0).2 = 1 := by decide +kernel
  rw [hperform] at hcalls
  obtain ⟨hlength, hanswers, -⟩ := hvirtual "greeting" greet rfl
  exact ⟨answers, doc', notes, host', hperform, hcalls, hnoted, hlength, hanswers, hcopy⟩

end LiveDocument

end DocStore
