import EventTasks.Proofs.Entering
import EventTasks.Proofs.Inspecting
import EventTasks.Proofs.Sparing

/-!
Binding the handlers of a task: what its class has under the names of handlers is bound to the task,
what was given for it comes in place of that, and each is pinned as an attribute of the task.
-/
namespace EventTasks

open Act

inductive World.Binds (h : Host) (w : World) (i d : Nat) : Value → Value → Prop where
  | method {stamp : Nat} {f : Function} :
    w.Binds h i d (.function f) (.ref (.method stamp (.object i) f))
  | free {f : Function} : w.Binds h i d (.ref (.staticMethod f)) (.function f)
  | classwise {stamp : Nat} {f : Function} :
    w.Binds h i d (.ref (.classMethod f)) (.ref (.method stamp (.cls (w.objectClassOf i)) f))
  | datum {e : Value} (datum : w.IsDatum e) : w.Binds h i d e e
  | asked {e v : Value} {u u' : World} (decides : ¬ w.IsDatum e) (kept : Keeps (.own d) w u)
    (given : h.fetch e (some (.object i)) (w.objectClassOf i) u = .ok v u') : w.Binds h i d e v

variable {h : Host} {s : Scope} {w u u' : World} {i d p k : Nat} {n : String} {e v : Value}

theorem Keeps.binds (kept : Keeps (.own d) w u) (binds : u.Binds h i d e v) :
    w.Binds h i d e v := by
  cases binds with
  | method => exact .method
  | free => exact .free
  | classwise =>
    rw [kept.objectClassOf]
    exact .classwise
  | datum datum => exact .datum (kept.isDatum.1 datum)
  | asked decides later given =>
    rw [kept.objectClassOf] at given
    exact .asked (fun datum => decides (kept.isDatum.2 datum)) (kept.trans later) given

/-- What an object gives that has nothing of its own under a name is what the entry of its class is
for it. -/
theorem Host.binds_of_attr (usual : u.ReadsUsually i) (own : (u.attributesOf i).text? n = none)
    (entry : u.definition? (u.objectClassOf i) n = some e)
    (read : h.attr (.object i) n u = .ok v u') : u.Binds h i d e v := by
  have given : h.fetch e (some (.object i)) (u.objectClassOf i) u = .ok v u' := by
    rw [← read, attr_eq_usual usual, usualAttribute, bind_of_ok (get_run u)]
    simp only [Value.object, Value.objectPlace?, World.classOf, World.classOfRef, own, entry]
  by_cases datum : u.IsDatum e
  · obtain ⟨rfl, -⟩ := EStateM.Result.ok.inj ((Host.fetch_datum datum _ _).symm.trans given)
    exact .datum datum
  · cases e with
    | ref r =>
      cases r with
      | function f =>
        obtain ⟨rfl, -⟩ := EStateM.Result.ok.inj given
        exact .method
      | staticMethod f =>
        obtain ⟨rfl, -⟩ := EStateM.Result.ok.inj given
        exact .free
      | classMethod f =>
        obtain ⟨rfl, -⟩ := EStateM.Result.ok.inj given
        exact .classwise
      | _ => exact .asked datum (.refl _ u) given
    | _ => exact .asked datum (.refl _ u) given

/-- An entry that can be called and that nobody decides about does not decide what setting it
means. -/
theorem World.IsPlainEntry.decidesChange (plain : w.IsPlainEntry e)
    (offers : w.offersCall e = true) :
    w.decidesChange e = false := by
  have unset : ((w.hookOf? e "__set__").isSome || (w.hookOf? e "__delete__").isSome) = false := by
    rw [plain.hooks _ (by simp), plain.hooks _ (by simp)]
    rfl
  cases e with
  | ref r =>
    cases r with
    | property | slot | aspect => simp [World.offersCall, World.isCallable] at offers
    | _ => exact unset
  | _ => exact unset

theorem Host.attr_offered (usual : w.ReadsUsually i) (own : (w.attributesOf i).text? n = none)
    (entry : w.definition? (w.objectClassOf i) n = some e) (plain : w.IsPlainEntry e)
    (offers : w.offersCall e = true) :
    ∃ v w', h.attr (.object i) n w = .ok v w' ∧ Untouched w w' := by
  have read : h.attr (.object i) n w = h.fetch e (some (.object i)) (w.objectClassOf i) w := by
    rw [Host.attr_eq_usual usual, Host.usualAttribute, bind_of_ok (get_run w)]
    simp only [Value.object, Value.objectPlace?, World.classOf, World.classOfRef, own, entry]
  have given {e : Value} (datum : w.IsDatum e) : ∃ v w',
      h.fetch e (some (.object i)) (w.objectClassOf i) w = .ok v w' ∧ Untouched w w' :=
    ⟨e, w, Host.fetch_datum datum _ _, .refl w⟩
  have unhooked := plain.unhooked
  rw [read]
  cases e with
  | ref r =>
    cases r with
    | function f => exact ⟨_, _, rfl, .later⟩
    | staticMethod f => exact ⟨_, w, rfl, .refl w⟩
    | classMethod f => exact ⟨_, _, rfl, .later⟩
    | subject t => exact given (e := .ref (.subject t)) unhooked
    | method stamp t f => exact given (e := .ref (.method stamp t f)) unhooked
    | bound q => exact given (e := .ref (.bound q)) unhooked
    | _ => simp [World.offersCall, World.isCallable] at offers
  | _ => simp [World.offersCall, World.isCallable] at offers

def Scope.handlers (d : Nat) : Scope :=
  ⟨d, fun n => Naming.isHandlerName n = true ∨ n = Task.handlersField, fun _ => False⟩

namespace Task

variable {table : Dictionary} {names : List String}

/-- An object whose class `_bind_handlers` can go through: it can be read and set under the names of
handlers. -/
structure Bindable (k : Nat) (w : World) (i d : Nat) : Prop where
  explorable : Explorable (Host.ofDepth k) d w (w.objectClassOf i)
  reads : ∀ n ∈ offered (Host.ofDepth k) w (w.objectClassOf i), ∀ u, Keeps (.own d) w u →
    (u.attributesOf i).text? n = none →
      ∃ v u', (Host.ofDepth (k + 1)).attr (.object i) n u = .ok v u' ∧ Untouched u u'
  settable : ∀ n ∈ offered (Host.ofDepth k) w (w.objectClassOf i), w.Settable i n

/-- What a task comes to have under the name of a handler: what was given for it, or what its class
has there, if that can be called, bound to the task. -/
inductive Receives (k : Nat) (w : World) (i d : Nat) (n : String) :
    Option Value → Option Value → Prop where
  | given {v : Value} : Receives k w i d n (some v) (some v)
  | bound {e v : Value} (offers : n ∈ offered (Host.ofDepth k) w (w.objectClassOf i))
    (entry : w.definition? (w.objectClassOf i) n = some e)
    (binds : w.Binds (Host.ofDepth (k + 1)) i d e v) : Receives k w i d n none (some v)
  | nothing (lacks : n ∉ offered (Host.ofDepth k) w (w.objectClassOf i)) :
    Receives k w i d n none none

/-- A task for which its class has a function gets that function as a method, bound to the task. -/
theorem Receives.method {f : Function} {x : Option Value} (receives : Receives k w i d n none x)
    (offers : n ∈ offered (Host.ofDepth k) w (w.objectClassOf i))
    (entry : w.definition? (w.objectClassOf i) n = some (.function f)) :
    ∃ stamp, x = some (.ref (.method stamp (.object i) f)) := by
  cases receives with
  | nothing lacks => exact absurd offers lacks
  | bound _ found binds =>
    obtain rfl := Option.some.inj (entry.symm.trans found)
    cases binds with
    | method => exact ⟨_, rfl⟩
    | datum datum => exact datum.elim
    | asked _ _ given =>
      obtain ⟨rfl, -⟩ := EStateM.Result.ok.inj given
      exact ⟨_, rfl⟩

section later

variable {c : Nat} (explorable : Explorable h d w c) (kept : Keeps (.own d) w u)
  (classes : u.classes = w.classes)
include explorable kept classes

theorem Explorable.offered_eq : offered h u c = offered h w c := by
  rw [offered, offered, namesAlong_eq classes c]
  exact List.filter_congr fun n hn => explorable.offers n hn u kept

theorem Explorable.obstacle?_eq : obstacle? h u c = obstacle? h w c := by
  rw [obstacle?, obstacle?, namesAlong_eq classes c, ← List.head?_filterMap,
    ← List.head?_filterMap]
  exact congrArg List.head? (List.filterMap_congr fun n hn => explorable.refuses n hn u kept)

theorem Explorable.later : Explorable h d u c := by
  have names := namesAlong_eq classes c
  refine ⟨fun v since same => ?_, fun n hn v since => ?_, fun n hn v since => ?_,
    fun n hn readable v since => ?_⟩
  · have known : (u.classInfo c).bases = (w.classInfo c).bases := by
      simp only [World.classInfo, classes]
    rw [known]
    exact explorable.above v (kept.trans since) (same.trans classes)
  · rw [names] at hn
    rw [explorable.refuses n hn v (kept.trans since), explorable.refuses n hn u kept]
  · rw [names] at hn
    rw [explorable.offers n hn v (kept.trans since), explorable.offers n hn u kept]
  · rw [names] at hn
    rw [explorable.refuses n hn u kept] at readable
    exact explorable.still n hn readable v (kept.trans since)

end later

theorem Bindable.later (bindable : Bindable k w i d) (kept : Keeps (.own d) w u)
    (classes : u.classes = w.classes) : Bindable k u i d := by
  have cls := kept.objectClassOf i
  have same := bindable.explorable.offered_eq kept classes
  refine ⟨cls ▸ bindable.explorable.later kept classes, fun n hn v since => ?_, fun n hn => ?_⟩
  · rw [cls, same] at hn
    exact bindable.reads n hn v (kept.trans since)
  · rw [cls, same] at hn
    exact kept.settable (Naming.isHandlerName_ne (isHandlerName_of_offered hn) (by decide))
      (bindable.settable n hn)

/-- `_bind_handlers` can go through a class with plain entries, none of whose handlers has an odd
name. -/
theorem bindable_of_plain {odd : String → Prop} (usual : w.ReadsUsually i)
    (sets : w.hook? (w.objectClassOf i) "__setattr__" = none)
    (entries : w.HasPlainEntries (w.objectClassOf i) odd)
    (above : ∀ b ∈ (w.classInfo (w.objectClassOf i)).bases, ∀ p ∈ (w.classInfo b).body,
      Capability.TellsClass w p.2)
    (fails : ∀ n, odd n → FailsAlike (Host.ofDepth k) d w (w.objectClassOf i) n) :
    Bindable k w i d := by
  have even {n : String} (inside : n ∈ offered (Host.ofDepth k) w (w.objectClassOf i)) :
      ¬ odd n := by
    intro strange
    obtain ⟨f, failing⟩ := fails n strange
    obtain ⟨u, failed⟩ := failing w (.refl _ w)
    have offers := (mem_offered.1 inside).2
    simp [Offers, failed] at offers
  have offered {n : String} (inside : n ∈ offered (Host.ofDepth k) w (w.objectClassOf i))
      {e : Value}
      (entry : w.definition? (w.objectClassOf i) n = some e) : w.offersCall e = true := by
    have offers := (mem_offered.1 inside).2
    rw [(offers_of_plain entries _ (even inside)).2.2, entry] at offers
    exact (Bool.and_eq_true_iff.1 offers).2
  refine ⟨explorable_of_plain entries above fails, fun n inside u kept own => ?_,
    fun n inside => ⟨sets, fun e entry => ?_⟩⟩
  · obtain ⟨e, entry⟩ := exists_definition?_of_offered inside
    have hn := Naming.isHandlerName_ne (m := "__annotations__") (isHandlerName_of_offered inside)
      (by decide)
    refine Host.attr_offered (kept.readsUsually usual) own (e := e) ?_
      (kept.isPlainEntry (entries.definition? (even inside) entry))
      ((kept.offersCall e).trans (offered inside entry))
    rw [kept.objectClassOf, kept.definition? hn, entry]
  · exact (entries.definition? (even inside) entry).decidesChange (offered inside entry)

structure Unbound (k : Nat) (w : World) (i d p : Nat) : Prop where
  usual : w.ReadsUsually i
  holds : w.Holds i d
  bindable : Bindable k w i d
  operation : w.Means i TaskOp.handlerNames.name (.library (.task .handlerNames))
  unset : ∀ n, Naming.isHandlerName n = true → (w.attributesOf i).text? n = none
  overrides : w.Shows i overridesField (.ref (.dict p))
  inside : p < w.dicts.size
  apart : p ≠ d
  texts : (w.dictAt p).Textual
  given : ∀ n, ((w.dictAt p).text? n).isSome → Naming.isHandlerName n = true ∧ w.Settable i n
  settable : w.Settable i handlersField
  named : IsNamed w i

theorem bindOne_eq (unbound : Unbound k w i d p) (kept : Rests (.nothing d) w u)
    (texts : table.Textual)
    (offers : n ∈ offered (Host.ofDepth k) w (w.objectClassOf i)) :
    ∃ table' u', (do
        let f ← (Host.ofDepth (k + 1)).attr (.object i) (← Host.nameOf (.word n))
        (Host.ofDepth (k + 1)).storeIn (.word n) f table) u = .ok table' u' ∧
      Rests (.nothing d) u u' ∧ table'.Textual ∧
      ∃ e v, w.definition? (w.objectClassOf i) n = some e ∧ w.Binds (Host.ofDepth (k + 1)) i d e v ∧
        ∀ m, table'.text? m = if m = n then some v else table.text? m := by
  have handler := isHandlerName_of_offered offers
  have hn : n ≠ "__annotations__" := Naming.isHandlerName_ne handler (by decide)
  obtain ⟨e, entry⟩ := exists_definition?_of_offered offers
  have keeps : Keeps (.own d) w u := kept.toKeeps.of_nothing
  have own : (u.attributesOf i).text? n = none :=
    (kept.toKeeps.own unbound.holds (.inr id)).trans (unbound.unset n handler)
  have entry₁ : u.definition? (u.objectClassOf i) n = some e := by
    rw [keeps.objectClassOf, keeps.definition? hn, entry]
  obtain ⟨v, u₁, read, same⟩ := unbound.bindable.reads n offers u keeps own
  have binds := Host.binds_of_attr (d := d) (keeps.readsUsually unbound.usual) own entry₁ read
  obtain ⟨table', stored, texts', now, -⟩ :=
    Host.storeIn_text (h := Host.ofDepth (k + 1)) (w := u₁) texts 0 n v
  refine ⟨table', u₁, ?_, same d, texts', e, v, entry, keeps.binds binds, now⟩
  exact (bind_of_ok rfl).trans ((bind_of_ok read).trans stored)

theorem foldlM_bindOne (unbound : Unbound k w i d p) (kept : Rests (.nothing d) w u)
    (texts : table.Textual)
    (offers : ∀ n ∈ names, n ∈ offered (Host.ofDepth k) w (w.objectClassOf i)) :
    ∃ table' u', ((names.map Value.word).foldlM (fun table name => do
        let f ← (Host.ofDepth (k + 1)).attr (.object i) (← Host.nameOf name)
        (Host.ofDepth (k + 1)).storeIn name f table) table : Act _) u = .ok table' u' ∧
      Rests (.nothing d) u u' ∧ table'.Textual ∧
      ∀ n, (n ∉ names → table'.text? n = table.text? n) ∧
        (n ∈ names → ∃ e v, w.definition? (w.objectClassOf i) n = some e ∧
          w.Binds (Host.ofDepth (k + 1)) i d e v ∧ table'.text? n = some v) := by
  induction names generalizing table u with
  | nil => exact ⟨table, u, rfl, .refl _ u, texts, fun n => ⟨fun _ => rfl, by simp⟩⟩
  | cons m names ih =>
    obtain ⟨table₁, u₁, run₁, kept₁, texts₁, e, v, entry, binds, now₁⟩ :=
      bindOne_eq unbound kept texts (offers m (by simp))
    obtain ⟨table', u', run, kept', texts', now⟩ := ih (kept.trans kept₁) texts₁
      fun n hn => offers n (by simp [hn])
    refine ⟨table', u', ?_, kept₁.trans kept', texts',
      fun n => ⟨fun absent => ?_, fun present => ?_⟩⟩
    · rw [List.map_cons, List.foldlM_cons]
      exact (bind_of_ok run₁).trans run
    · obtain ⟨other, absent⟩ := not_or.1 (mt List.mem_cons.2 absent)
      rw [(now n).1 absent, now₁ n, if_neg other]
    · by_cases again : n ∈ names
      · exact (now n).2 again
      · obtain rfl : n = m := (List.mem_cons.1 present).resolve_right again
        exact ⟨e, v, entry, binds, by rw [(now n).1 again, now₁ n, if_pos rfl]⟩

theorem foldItems_bindOne (unbound : Unbound k w i d p)
    (kept : Rests (.nothing d) w u) {place : Nat}
    (list : u.lists[place]? =
      some ((offered (Host.ofDepth k) w (w.objectClassOf i)).map .word)) :
    ∃ table u', (Host.ofDepth (k + 1)).foldItems (.ref (.list place)) (fun table name => do
        let f ← (Host.ofDepth (k + 1)).attr (.object i) (← Host.nameOf name)
        (Host.ofDepth (k + 1)).storeIn name f table) {} u = .ok table u' ∧
      Rests (.nothing d) u u' ∧ table.Textual ∧
      ∀ n, Receives k w i d n none (table.text? n) := by
  obtain ⟨table, u', run, kept', texts, now⟩ :=
    foldlM_bindOne unbound kept Dictionary.textual_empty fun _ => id
  have leaves : ∀ x ∈ (offered (Host.ofDepth k) w (w.objectClassOf i)).map Value.word,
      Host.Leaves (fun table v => Rests (.nothing d) u v ∧ table.Textual) (fun table name => do
        let f ← (Host.ofDepth (k + 1)).attr (.object i) (← Host.nameOf name)
        (Host.ofDepth (k + 1)).storeIn name f table) x := by
    rintro x hx table v table' v' ⟨since, texts⟩ run
    obtain ⟨n, hn, rfl⟩ := List.mem_map.1 hx
    obtain ⟨table₁, v₁, run₁, kept₁, texts₁, -⟩ := bindOne_eq unbound (kept.trans since) texts hn
    obtain ⟨rfl, rfl⟩ := EStateM.Result.ok.inj (run.symm.trans run₁)
    exact ⟨since.trans kept₁, texts₁⟩
  have fold := Host.foldItems_list (h := Host.ofDepth (k + 1)) (p := place)
    (fun _ v now => now.1.lists _ _ id list) leaves {} ⟨.refl _ u, Dictionary.textual_empty⟩
  refine ⟨table, u', fold.trans run, kept', texts, fun n => ?_⟩
  by_cases present : n ∈ offered (Host.ofDepth k) w (w.objectClassOf i)
  · obtain ⟨e, v, entry, binds, found⟩ := (now n).2 present
    exact found ▸ .bound present entry binds
  · rw [(now n).1 present]
    exact .nothing present

/-! Pinning -/

theorem pin_eq {entries : List Entry} (texts : AreTexts entries) (holds : w.Holds i d)
    (settable : ∀ n, (textIn entries n).isSome → Naming.isHandlerName n = true ∧ w.Settable i n) :
    ∃ w', pin h (.object i) (entries.map Entry.toPair) w = .ok () w' ∧ Rests (.handlers d) w w' ∧
      w'.classes = w.classes ∧
      ∀ n, (w'.dictAt d).text? n = (textIn entries n).or ((w.dictAt d).text? n) := by
  induction entries generalizing w with
  | nil => exact ⟨w, rfl, .refl _ w, rfl, fun _ => rfl⟩
  | cons e entries ih =>
    obtain ⟨place, m, name, absent, texts, first⟩ := texts.cons
    have here : (textIn (e :: entries) m).isSome := by simp [first]
    have kept : Rests (.handlers d) w (w.putText d m e.value) :=
      .putText (s := .handlers d) (.inl (settable m here).1) e.value
    have assigned := Host.assign_settable (h := h) (v := e.value) holds (settable m here).2
    obtain ⟨w', run, kept', classes, now⟩ := ih texts (holds.putText d m e.value) fun n found => by
      obtain ⟨named, settable⟩ := settable n (by
        rw [first n]
        split
        · rfl
        · exact found)
      exact ⟨named, kept.toKeeps.settable (Naming.isHandlerName_ne named (by decide)) settable⟩
    refine ⟨w', ?_, kept.trans kept', classes, fun n => ?_⟩
    · have told : Host.nameOf e.name w = .ok m w := by rw [name]; rfl
      exact (bind_of_ok told).trans ((bind_of_ok assigned).trans run)
    · rw [now n, World.dictAt_putText holds.inside, Dictionary.text?_setText, first n]
      by_cases same : n = m
      · simp [same, absent]
      · simp [same]

theorem Receives.settable {found : Option Value} (unbound : Unbound k w i d p)
    (receives : Receives k w i d n ((w.dictAt p).text? n) found) (some : found.isSome) :
    Naming.isHandlerName n = true ∧ w.Settable i n := by
  generalize here : (w.dictAt p).text? n = given at receives
  cases receives with
  | given => exact unbound.given n (by rw [here]; rfl)
  | nothing => simp at some
  | bound offers => exact ⟨isHandlerName_of_offered offers, unbound.bindable.settable n offers⟩

theorem Receives.or {found : Option Value} {x : Option Value}
    (receives : Receives k w i d n none found) :
    Receives k w i d n x (x.or found) := by
  cases x with
  | some v => exact .given
  | none => exact receives

def collect (h : Host) (self : Value) : Act Dictionary := do
  let names ← h.send self "_get_handlers" []
  let found ← h.foldItems names (fun table name => do
    let f ← h.attr self (← Host.nameOf name)
    h.storeIn name f table) {}
  h.addEntries (← h.attr self overridesField) found

def keepTable (h : Host) (self : Value) (table : Dictionary) : Act Value := do
  pin h self table.toPairs
  h.assign self handlersField (← newDict table)
  let name ← nameText h self
  say .debug s!"Bound {table.size} handlers for task [{name}]"
  pure .nothing

theorem bindHandlers_def (h : Host) (self : Value) :
    bindHandlers h self = collect h self >>= keepTable h self := by
  simp only [bindHandlers, collect, bind_assoc]
  rfl

theorem collect_eq (unbound : Unbound k w i d p) :
    match obstacle? (Host.ofDepth k) w (w.objectClassOf i) with
    | some f => ∃ u, collect (Host.ofDepth (k + 1)) (.object i) w = .error f u
    | none => ∃ table u, collect (Host.ofDepth (k + 1)) (.object i) w = .ok table u ∧
        Rests (.nothing d) w u ∧ table.Textual ∧
        ∀ n, Receives k w i d n ((w.dictAt p).text? n) (table.text? n) := by
  have later : Untouched w w.later := .later
  have asked : (Host.ofDepth (k + 1)).send (.object i) "_get_handlers" [] w =
      handlerNames (Host.ofDepth k) (.object i) w.later :=
    Host.send_means unbound.usual unbound.operation k []
  have named := handlerNames_eq unbound.bindable.explorable (i := i) later.keeps rfl
  cases obstacle : obstacle? (Host.ofDepth k) w (w.objectClassOf i) with
  | some f =>
    rw [obstacle] at named
    obtain ⟨u, failed⟩ := named
    exact ⟨u, bind_of_error (asked.trans failed)⟩
  | none =>
    rw [obstacle] at named
    obtain ⟨place, w₁, named, same₁, list⟩ := named
    have kept₁ : Rests (.nothing d) w w₁ := (later.trans same₁) d
    obtain ⟨found, w₂, bound, kept₂, texts, receives⟩ := foldItems_bindOne unbound kept₁ list
    have kept : Rests (.nothing d) w w₂ := kept₁.trans kept₂
    have overrides := kept.shows unbound.holds (.inr id) (by decide) unbound.overrides
    have same : w₂.dictAt p = w.dictAt p := kept.dictAt unbound.inside unbound.apart
    obtain ⟨table, added, texts', now⟩ := Host.addEntries_dict (h := Host.ofDepth (k + 1)) (w := w₂)
      (p := p) (same ▸ unbound.texts) texts
    refine ⟨table, w₂, ?_, kept, texts', fun n => ?_⟩
    · rw [collect, bind_of_ok (asked.trans named), bind_of_ok bound,
        bind_of_ok (Host.attr_shows (kept.readsUsually unbound.usual) overrides), added]
    · rw [now n, same]
      exact (receives n).or

theorem keepTable_eq (texts : table.Textual) (usual : w.ReadsUsually i) (holds : w.Holds i d)
    (settable : ∀ n, (table.text? n).isSome → Naming.isHandlerName n = true ∧ w.Settable i n)
    (field : w.Settable i handlersField) (named : IsNamed w i) :
    ∃ w' q, keepTable h (.object i) table w = .ok .nothing w' ∧ Keeps (.handlers d) w w' ∧
      w.dicts.size ≤ q ∧ q < w'.dicts.size ∧ w'.Shows i handlersField (.ref (.dict q)) ∧
      w'.dictAt q = table ∧ ∀ n, n ≠ handlersField →
        (w'.dictAt d).text? n = (table.text? n).or ((w.dictAt d).text? n) := by
  obtain ⟨w₁, pinned, kept₁, -, own₁⟩ := pin_eq (h := h) texts.areTexts holds settable
  have holds₁ := kept₁.holds holds
  have inside := holds₁.inside
  let w₂ : World := { w₁ with dicts := w₁.dicts.push table }
  have pushed : Keeps (.nothing d) w₁ w₂ := .pushDict_of_lt inside table
  have kept₂ : Keeps (.handlers d) w w₂ := Keeps.trans kept₁.toKeeps pushed.of_nothing
  have settable₂ := kept₂.settable (by decide) field
  have assigned := Host.assign_settable (h := h) (v := .ref (.dict w₁.dicts.size))
    (kept₂.holds holds) settable₂
  let w₃ := w₂.putText d handlersField (.ref (.dict w₁.dicts.size))
  have put : Keeps (.handlers d) w₂ w₃ := .putText (s := .handlers d) (.inr rfl) _
  have kept₃ := kept₂.trans put
  have named₃ : IsNamed w₃ i := by
    obtain ⟨name, simple, shows⟩ := named
    have other : ¬ (Scope.handlers d).names "name" := by
      simp only [Scope.handlers, handlersField]
      decide
    exact ⟨name, simple, kept₃.shows holds (.inr other) (by decide) shows⟩
  obtain ⟨text, told⟩ := nameText_eq (h := h) (kept₃.readsUsually usual) named₃
  obtain ⟨around', said⟩ :
      ∃ around', say .debug s!"Bound {table.size} handlers for task [{text}]" w₃ =
      .ok () { w₃ with around := around' } := ⟨_, rfl⟩
  have last : Keeps (.handlers d) w₃ { w₃ with around := around' } := .around around'
  have run : keepTable h (.object i) table w = .ok .nothing { w₃ with around := around' } := by
    refine (bind_of_ok pinned).trans ?_
    exact (bind_of_ok rfl).trans
      ((bind_of_ok assigned).trans ((bind_of_ok told).trans (bind_of_ok said)))
  have there : w₁.dicts.size < w₂.dicts.size := by simp [w₂]
  refine ⟨_, w₁.dicts.size, run, kept₃.trans last, kept₁.dictsSize, ?_, ?_, ?_, fun n other => ?_⟩
  · exact Nat.lt_of_lt_of_le there put.dictsSize
  · exact World.shows_putText (kept₂.holds holds) settable₂ _
  · have same : w₃.dictAt w₁.dicts.size = w₂.dictAt w₁.dicts.size :=
      put.dictAt there (Nat.ne_of_gt inside)
    exact same.trans (by simp [World.dictAt, w₂])
  · have own₂ : (w₂.dictAt d).text? n = (w₁.dictAt d).text? n := pushed.attributes n id
    have own₃ : (w₃.dictAt d).text? n = (w₂.dictAt d).text? n := by
      rw [World.dictAt_putText (kept₂.holds holds).inside, Dictionary.text?_setText, if_neg other]
    exact own₃.trans (own₂.trans (own₁ n))

/-- What `_bind_handlers` leaves: the handlers that a task receives, as its own attributes and in a
table at `q`. -/
structure HasBound (k : Nat) (w w' : World) (i d p q : Nat) : Prop where
  kept : Keeps (.handlers d) w w'
  new : w.dicts.size ≤ q
  inside : q < w'.dicts.size
  shows : w'.Shows i handlersField (.ref (.dict q))
  texts : (w'.dictAt q).Textual
  receives : ∀ n, Receives k w i d n ((w.dictAt p).text? n) ((w'.dictAt q).text? n)
  own : ∀ n, n ≠ handlersField →
    (w'.dictAt d).text? n = ((w'.dictAt q).text? n).or ((w.dictAt d).text? n)

/-- `_bind_handlers` gives a task its handlers and the table of them, unless `inspect.getmembers`
fails on its class. -/
theorem bindHandlers_eq (unbound : Unbound k w i d p) :
    match obstacle? (Host.ofDepth k) w (w.objectClassOf i) with
    | some f => ∃ w', bindHandlers (Host.ofDepth (k + 1)) (.object i) w = .error f w'
    | none => ∃ w' q, bindHandlers (Host.ofDepth (k + 1)) (.object i) w = .ok .nothing w' ∧
        HasBound k w w' i d p q := by
  have collected := collect_eq unbound
  cases obstacle : obstacle? (Host.ofDepth k) w (w.objectClassOf i) with
  | some f =>
    rw [obstacle] at collected
    obtain ⟨u, failed⟩ := collected
    exact ⟨u, by rw [bindHandlers_def, bind_of_error failed]⟩
  | none =>
    rw [obstacle] at collected
    obtain ⟨table, u, collected, kept, texts, receives⟩ := collected
    obtain ⟨w', q, run, kept', new, inside, shows, here, own⟩ := keepTable_eq
      (h := Host.ofDepth (k + 1)) texts (kept.readsUsually unbound.usual) (kept.holds unbound.holds)
      (fun n found => by
        obtain ⟨named, settable⟩ := (receives n).settable unbound found
        exact ⟨named, kept.settable (Naming.isHandlerName_ne named (by decide)) settable⟩)
      (kept.settable (by decide) unbound.settable) (by
        obtain ⟨name, simple, shows⟩ := unbound.named
        exact ⟨name, simple, kept.shows unbound.holds (.inr id) (by decide) shows⟩)
    refine ⟨w', q, ?_, Keeps.trans kept.toKeeps.of_nothing kept', kept.dictsSize.trans new, inside,
      shows, here ▸ texts, here ▸ receives, fun n other => ?_⟩
    · rw [bindHandlers_def, bind_of_ok collected, run]
    · have same : (u.dictAt d).text? n = (w.dictAt d).text? n := kept.attributes n id
      rw [own n other, here, same]

namespace HasBound

variable {w' : World} {q : Nat}

theorem lacks (bound : HasBound k w w' i d p q) (unbound : Unbound k w i d p)
    (other : Naming.isHandlerName n = false) : (w'.dictAt q).text? n = none := by
  cases found : (w'.dictAt q).text? n with
  | none => rfl
  | some x =>
    obtain ⟨handler, -⟩ := (bound.receives n).settable unbound (by rw [found]; rfl)
    simp [other] at handler

/-- A handler of the task is the one in its table. -/
theorem own_handler (bound : HasBound k w w' i d p q) (unbound : Unbound k w i d p)
    (handler : Naming.isHandlerName n = true) :
    (w'.attributesOf i).text? n = (w'.dictAt q).text? n := by
  have unset : (w.dictAt d).text? n = none := by
    rw [← unbound.holds.attributesOf_eq]
    exact unbound.unset n handler
  rw [(bound.kept.holds unbound.holds).attributesOf_eq,
    bound.own n (Naming.isHandlerName_ne handler (by decide)), unset, Option.or_none]

theorem own_other (bound : HasBound k w w' i d p q) (unbound : Unbound k w i d p)
    (other : Naming.isHandlerName n = false) (field : n ≠ handlersField) :
    (w'.attributesOf i).text? n = (w.dictAt d).text? n := by
  rw [(bound.kept.holds unbound.holds).attributesOf_eq, bound.own n field,
    bound.lacks unbound other, Option.none_or]

theorem shows_handler (bound : HasBound k w w' i d p q) (unbound : Unbound k w i d p) {x : Value}
    (handler : Naming.isHandlerName n = true) (found : (w'.attributesOf i).text? n = some x) :
    w'.Shows i n x := by
  obtain ⟨-, settable⟩ := (bound.receives n).settable unbound
    (by rw [← bound.own_handler unbound handler, found]; rfl)
  exact (bound.kept.settable (Naming.isHandlerName_ne handler (by decide)) settable).shows found

theorem table_eq (bound : HasBound k w w' i d p q) (unbound : Unbound k w i d p) (n : String) :
    (w'.dictAt q).text? n =
      if Naming.isHandlerName n then (w'.attributesOf i).text? n else none := by
  cases handler : Naming.isHandlerName n with
  | true => exact (bound.own_handler unbound handler).symm
  | false => exact bound.lacks unbound handler

end HasBound

end Task

end EventTasks
