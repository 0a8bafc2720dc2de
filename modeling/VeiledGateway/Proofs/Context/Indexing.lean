/-
  Indexing: the index of a table follows its entries.

  A table grows by requests.  An original that has an entry is answered from it; for another one
  something is made, and where that comes to nothing the table stays as it is.  After any requests the
  index is the one that the entries give when they are all indexed anew, so that a value leads to the
  last original that was entered with it.
-/
import Mathlib.Data.List.Induction
import VeiledGateway.Proofs.Context.Linking
import VeiledGateway.Proofs.Context.Ordering

set_option autoImplicit false

namespace VeiledGateway

namespace TokenTable

/-! ## Requests -/

/-- What is given for an original, and the table after that: what stands for it already, or else what
is made for it, which goes into the table. -/
def request (table : TokenTable) (original : Text) (made : Option Text) : Option Text × TokenTable :=
  match table.value? original with
  | some value => (some value, table)
  | none =>
    match made with
    | some value => (some value, table.insert original value)
    | none => (none, table)

/-- The table after requests, each of them with what would be made for it. -/
def afterRequests (table : TokenTable) (requests : List (Text × Option Text)) : TokenTable :=
  requests.foldl (fun table asked => (table.request asked.1 asked.2).2) table

variable {table : TokenTable} {forward : Entries Text} {original value : Text}

/-- A request changes nothing, or enters an original that had no entry. -/
theorem request_cases (table : TokenTable) (original : Text) (made : Option Text) :
    (table.request original made).2 = table ∨
      table.value? original = none ∧ ∃ value, made = some value ∧
        (table.request original made).2 = table.insert original value := by
  unfold request
  cases table.value? original with
  | some value => exact .inl rfl
  | none =>
    cases made with
    | none => exact .inl rfl
    | some value => exact .inr ⟨rfl, value, rfl, rfl⟩

/-! ## The index of entries -/

theorem index_concat (forward : Entries Text) (entry : Text × Text) :
    index (forward ++ [entry]) = Entries.put (index forward) entry.2 entry.1 := by
  rw [index, index, List.foldl_append, List.foldl_cons, List.foldl_nil]

/-- Of all entries with a value, that of this original is the last. -/
def IsLast (forward : Entries Text) (original value : Text) : Prop :=
  ∃ before after, forward = before ++ (original, value) :: after ∧ value ∉ after.map Prod.snd

theorem IsLast.mem (h : IsLast forward original value) : (original, value) ∈ forward := by
  obtain ⟨before, after, rfl, -⟩ := h
  exact List.mem_append_right _ List.mem_cons_self

theorem isLast_concat_self (forward : Entries Text) (original value : Text) :
    IsLast (forward ++ [(original, value)]) original value :=
  ⟨forward, [], rfl, List.not_mem_nil⟩

theorem IsLast.concat (h : IsLast forward original value) {entry : Text × Text}
    (hne : value ≠ entry.2) : IsLast (forward ++ [entry]) original value := by
  obtain ⟨before, after, rfl, hafter⟩ := h
  refine ⟨before, after ++ [entry], by rw [List.append_assoc, List.cons_append], ?_⟩
  rw [List.map_append, List.mem_append, not_or]
  exact ⟨hafter, fun hmem => hne (List.mem_singleton.mp hmem)⟩

/-- A value of an entry leads to the last original that was entered with it. -/
theorem exists_isLast (hvalue : value ∈ forward.map Prod.snd) :
    ∃ original, (ofForward forward).original? value = some original ∧
      IsLast forward original value := by
  induction forward using List.reverseRecOn with
  | nil => exact absurd hvalue List.not_mem_nil
  | append_singleton before entry ih =>
    obtain ⟨name, token⟩ := entry
    simp only [original?, ofForward, index_concat] at ih ⊢
    by_cases hlast : value = token
    · subst hlast
      exact ⟨name, Entries.get?_put_self _ _ _, isLast_concat_self before name value⟩
    · have hbefore : value ∈ before.map Prod.snd := by
        rw [List.map_append, List.mem_append] at hvalue
        exact hvalue.resolve_right fun hmem => hlast (List.mem_singleton.mp hmem)
      obtain ⟨original, hfound, hpast⟩ := ih hbefore
      exact ⟨original, (Entries.get?_put_of_ne _ _ hlast).trans hfound, hpast.concat hlast⟩

/-! ## Tables in step -/

/-- The index of a table is that of its entries. -/
def InStep (table : TokenTable) : Prop :=
  table = ofForward table.forward

theorem InStep.insert (h : table.InStep) (hnone : table.value? original = none) (value : Text) :
    (table.insert original value).InStep := by
  have hreverse : table.reverse = index table.forward := congrArg TokenTable.reverse h
  rw [InStep, forward_insert hnone, ofForward, index_concat, ← hreverse, TokenTable.insert,
    Entries.put_of_get?_eq_none hnone]

/-- What is kept by every entry of an original that had none, is kept by requests. -/
theorem afterRequests_induction {P : TokenTable → Prop}
    (hinsert : ∀ (table : TokenTable) (original value : Text), P table →
      table.value? original = none → P (table.insert original value))
    (h : P table) (requests : List (Text × Option Text)) : P (table.afterRequests requests) := by
  induction requests generalizing table with
  | nil => exact h
  | cons asked rest ih =>
    refine ih ?_
    dsimp only
    rcases table.request_cases asked.1 asked.2 with hsame | ⟨hnone, value, -, hentered⟩
    · rw [hsame]
      exact h
    · rw [hentered]
      exact hinsert table asked.1 value h hnone

theorem InStep.afterRequests (h : table.InStep) (requests : List (Text × Option Text)) :
    (table.afterRequests requests).InStep :=
  afterRequests_induction (P := InStep) (fun _ _ value h hnone => h.insert hnone value) h requests

theorem single_afterRequests (h : table.forward.Single) (requests : List (Text × Option Text)) :
    (table.afterRequests requests).forward.Single :=
  afterRequests_induction (P := fun table => table.forward.Single)
    (fun _ original value h _ => h.put original value) h requests

/-- Entries stay where they are, and new ones go behind them. -/
theorem prefix_afterRequests (table : TokenTable) (requests : List (Text × Option Text)) :
    table.forward <+: (table.afterRequests requests).forward := by
  refine afterRequests_induction (P := fun other => table.forward <+: other.forward) ?_
    (List.prefix_refl _) requests
  intro other original value hgrown hnone
  rw [forward_insert hnone]
  exact hgrown.trans (List.prefix_append _ _)

/-- Whatever entries a table begins with and whatever is asked of it, its index is that of its entries:
a value that stands for no original leads nowhere, and any other one leads to the last original that
was entered with it, which is the only one where the value is not shared. -/
theorem index_in_step (hsingle : forward.Single) (requests : List (Text × Option Text)) :
    let table := (ofForward forward).afterRequests requests
    forward <+: table.forward ∧ table.reverse = (ofForward table.forward).reverse ∧
      ∀ value,
        (value ∉ table.forward.map Prod.snd → table.original? value = none) ∧
        (value ∈ table.forward.map Prod.snd → ∃ original, table.original? value = some original ∧
          table.value? original = some value ∧ IsLast table.forward original value) ∧
        ∀ original, table.value? original = some value →
          (∀ other, table.value? other = some value → other = original) →
          table.original? value = some original := by
  intro table
  have hbegin : (ofForward forward).InStep := rfl
  have hstep : table.InStep := hbegin.afterRequests requests
  have halone : (ofForward forward).forward.Single := hsingle
  have hnames : table.forward.Single := single_afterRequests halone requests
  have hindexed : table.Indexed := by
    rw [hstep]
    exact indexed_ofForward _
  refine ⟨prefix_afterRequests (ofForward forward) requests, congrArg TokenTable.reverse hstep, ?_⟩
  intro value
  refine ⟨hindexed.original?_of_no_token, fun hvalue => ?_, fun original hentry honly => ?_⟩
  · obtain ⟨original, hfound, hlast⟩ := exists_isLast hvalue
    rw [← hstep] at hfound
    exact ⟨original, hfound, hnames.get?_of_mem hlast.mem, hlast⟩
  · refine hindexed.original?_of_unshared (Entries.mem_of_get? hentry) fun other hother => ?_
    exact honly other (hnames.get?_of_mem hother)

/-- Entries of which two share a value. -/
def sharingEntries : Entries Text :=
  [("a", "x"), ("b", "x"), ("c", "y")]

/-- One original that is there already, one for which nothing comes of the making, and two new ones. -/
def sharingRequests : List (Text × Option Text) :=
  [("a", some "z"), ("d", none), ("e", some "w"), ("f", some "x")]

/-- After those requests the shared value leads to the original that was entered last, and what was
made for an original that had its entry leads nowhere. -/
theorem sharing_in_step :
    let table := (ofForward sharingEntries).afterRequests sharingRequests
    sharingEntries.Single ∧ table.reverse = (ofForward table.forward).reverse ∧
      table.original? "z" = none ∧
      (∃ original, table.original? "x" = some original ∧ table.value? original = some "x" ∧
        IsLast table.forward original "x") ∧
      table.original? "w" = some "e" := by
  have hsingle : sharingEntries.Single := by
    rw [Entries.Single]
    decide
  obtain ⟨-, hsame, hvalues⟩ := index_in_step hsingle sharingRequests
  refine ⟨hsingle, hsame, (hvalues "z").1 (by decide), (hvalues "x").2.1 (by decide), ?_⟩
  refine (hvalues "w").2.2 "e" (by decide) fun other hother => ?_
  have hall : ∀ entry ∈ ((ofForward sharingEntries).afterRequests sharingRequests).forward,
      entry.2 = ("w" : Text) → entry.1 = ("e" : Text) := by
    decide
  exact hall _ (Entries.mem_of_get? hother) rfl

end TokenTable

/-! ## Contexts -/

namespace Context

variable {c : Context} {settings : Settings}

theorem table_answerName_of_ne (c : Context) {naming other : Naming} (h : other ≠ naming)
    (original : Text) : (c.answerName naming original).2.table other = c.table other := by
  rcases c.answerName_cases naming original with
    ⟨tok, -, hanswer⟩ | ⟨-, ⟨fault, -, hanswer⟩ | ⟨tok, -, hanswer⟩⟩ <;> rw [hanswer]
  · exact table_inserted _ other
  · exact (table_setTable_of_ne h _).trans (table_inserted _ other)

theorem textChunks_answerName (c : Context) (naming : Naming) (original : Text) :
    (c.answerName naming original).2.textChunks = c.textChunks := by
  rcases c.answerName_cases naming original with
    ⟨tok, -, hanswer⟩ | ⟨-, ⟨fault, -, hanswer⟩ | ⟨tok, -, hanswer⟩⟩ <;> rw [hanswer]
  exact textChunks_setTable _ _

/-- The answer to a name is a request to its table, for which its token is made. -/
theorem answerName_eq_request (c : Context) (naming : Naming) (original : Text) :
    ((c.answerName naming original).1.toOption, (c.answerName naming original).2.table naming) =
      (c.table naming).request original (token naming.category original c.key).toOption := by
  unfold TokenTable.request
  rcases c.answerName_cases naming original with
    ⟨tok, hold, hanswer⟩ | ⟨hnone, ⟨fault, htoken, hanswer⟩ | ⟨tok, htoken, hanswer⟩⟩
  · rw [hanswer, hold]
    rfl
  · rw [hanswer, hnone, htoken, table_inserted]
    rfl
  · rw [hanswer, hnone, htoken, table_setTable_self]
    rfl

/-- The layout of a text is a request to the table of layouts, for which one is drawn. -/
theorem layout_eq_request (c : Context) (text : Text) :
    (some (c.layout text).1, (c.layout text).2.textChunks) =
      c.textChunks.request text
        (some (Layout.choose Twister.belowThree text.length c.twister).1) := by
  unfold TokenTable.request
  rcases c.layout_cases text with ⟨layout, hold, hlayout⟩ | ⟨hnone, layout, twister, hdrawn, hlayout⟩
  · rw [hlayout, hold]
  · rw [hlayout, hnone, ← hdrawn]

/-- Each table of a context has the index of its entries. -/
structure InStep (c : Context) : Prop where
  tokens (naming : Naming) : (c.table naming).InStep
  layouts : c.textChunks.InStep

theorem inStep_ofMappings (key : Text) (m : Mappings) (twister : Twister) :
    (ofMappings key m twister).InStep where
  tokens := fun naming => by cases naming <;> rfl
  layouts := rfl

theorem InStep.answerName (h : c.InStep) (naming : Naming) (original : Text) :
    (c.answerName naming original).2.InStep := by
  have hasked := congrArg Prod.snd (c.answerName_eq_request naming original)
  dsimp only at hasked
  refine ⟨fun other => ?_, ?_⟩
  · by_cases hother : other = naming
    · subst hother
      rw [hasked]
      exact (h.tokens other).afterRequests [(original, _)]
    · rw [table_answerName_of_ne c hother]
      exact h.tokens other
  · rw [textChunks_answerName]
    exact h.layouts

theorem InStep.layout (h : c.InStep) (text : Text) : (c.layout text).2.InStep := by
  have hasked := congrArg Prod.snd (c.layout_eq_request text)
  dsimp only at hasked
  refine ⟨fun naming => ?_, ?_⟩
  · rw [table_layout]
    exact h.tokens naming
  · rw [hasked]
    exact h.layouts.afterRequests [(text, _)]

theorem InStep.run {α : Type} (h : c.InStep) (p : Rewriting α) : (c.run p).2.1.InStep :=
  run_induction (I := InStep) (fun _ naming original h => h.answerName naming original)
    (fun _ text h => h.layout text) p h

theorem InStep.reload (h : c.InStep) (challenge : Option Challenge) (secrets : Secrets)
    (twister : Twister) : (c.reload challenge secrets twister).InStep := by
  unfold Context.reload
  split
  · exact h
  · split
    · exact h
    · exact inStep_ofMappings _ _ twister

/-- Whatever is done in a session, and however often its record is read again, its tables have the
indexes of their entries. -/
theorem InStep.afterSteps (h : c.InStep) (steps : List Step) : (c.afterSteps settings steps).InStep :=
  afterSteps_induction (I := InStep) (fun _ _ p h => h.run p) (fun _ challenge secrets twister h =>
    h.reload challenge secrets twister) h steps

end Context

end VeiledGateway
