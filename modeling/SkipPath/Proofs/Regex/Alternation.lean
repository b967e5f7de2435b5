import SkipPath.Proofs.Regex.Language
import SkipPath.Proofs.Regex.Reading
import SkipPath.Text.Lines

/-!
Expressions with bars between them.

An expression whose tokens are read as items wherever they stand (`Branch`) can be put next to others of its
kind: with a bar between neighbours they are read as a choice between what they are on their own
(`Branch.readTokens_alternatives`).  A choice is allowed where its parts are, and finds a match exactly where
one of them does (`searchFrom_choice`), so that the joined text is an expression again and finds what any
of its parts finds (`search_join`).  Nothing is asked of the text that is searched.
-/

namespace SkipPath.Regex

/-! ## 1. Texts and tokens -/

namespace Token

/-- Rows of tokens with a bar between neighbours. -/
def alternatives : List (List Token) → List Token
  | [] => []
  | [ts] => ts
  | ts :: rest => ts ++ .plain '|' :: alternatives rest

theorem texts_alternatives (rows : List (List Token)) :
    texts (alternatives rows) = Text.join ['|'] (rows.map texts) := by
  fun_induction alternatives rows with
  | case1 => rfl
  | case2 ts => rfl
  | case3 ts rest hrest ih =>
    have hjoin : Text.join ['|'] (texts ts :: rest.map texts) =
        texts ts ++ [.char '|'] ++ Text.join [.char '|'] (rest.map texts) := by
      rw [Text.join]
      simpa using hrest
    rw [texts_append, texts_cons, ih, List.map_cons, hjoin, List.append_assoc]
    rfl

theorem alternatives_proper {rows : List (List Token)} (h : ∀ ts ∈ rows, ∀ t ∈ ts, t.IsProper) :
    ∀ t ∈ alternatives rows, t.IsProper := by
  fun_induction alternatives rows with
  | case1 => simp
  | case2 ts => simpa using h
  | case3 ts rest hrest ih =>
    obtain ⟨hts, hrows⟩ := List.forall_mem_cons.mp h
    intro t ht
    rcases List.mem_append.mp ht with ht | ht
    · exact hts t ht
    · rcases List.mem_cons.mp ht with rfl | ht
      · exact (by decide : CodePoint.char '|' ≠ '\\')
      · exact ih hrows t ht

end Token

/-- A text that is an expression is the text of its tokens, from which the expression is read. -/
theorem parse_ok_iff {t : Text} {e : Expression} :
    parse t = .ok e ↔ (Token.scan t).2 = false ∧ readTokens {} (Token.scan t).1 = .ok e := by
  unfold parse
  generalize Token.scan t = scanned
  obtain ⟨tokens, dangling⟩ := scanned
  simp only
  cases readTokens {} tokens with
  | ok expression => cases dangling <;> simp
  | error trouble =>
    simp only [reduceCtorEq, and_false, iff_false]
    split <;> simp

theorem parse_texts {ts : List Token} (h : ∀ t ∈ ts, t.IsProper) {e : Expression} :
    parse (Token.texts ts) = .ok e ↔ readTokens {} ts = .ok e := by
  rw [parse_ok_iff, Token.scan_texts h]
  simp

/-! ## 2. Reading -/

/-- What tokens without groups and switches come to: their tree, where it is allowed. -/
def ofTree (tree : Node) : Except Trouble Expression :=
  match tree.problem? false [none] with
  | some problem => .error { problem := problem }
  | none => .ok { flags := {}, tree := tree }

theorem ofTree_eq_ok {tree : Node} {e : Expression} :
    ofTree tree = .ok e ↔ tree.problem? false [none] = none ∧ e = { flags := {}, tree := tree } := by
  unfold ofTree
  cases tree.problem? false [none] with
  | none => simp [eq_comm]
  | some problem => simp

/-- The node that items are read as. -/
def nodeOf (items : List Item) : Node := .sequence (items.map (·.node))

/-- Reading behind some alternatives, last first. -/
def State.behind (branches : List Node) : State :=
  { frame := { opener := .whole, branches := branches } }

theorem branch_pushAll (branches : List Node) (items : List Item) :
    ((State.behind branches).pushAll items).frame.branch = nodeOf items := by
  rw [State.pushAll_items, Frame.branch]
  simp [State.behind, nodeOf]

theorem readTokens_end (branches : List Node) (items : List Item) :
    readTokens ((State.behind branches).pushAll items) [] =
      ofTree (.choice (branches.reverse ++ [nodeOf items])) := by
  have hbody : ((State.behind branches).pushAll items).frame.body =
      .choice (branches.reverse ++ [nodeOf items]) := by
    rw [Frame.body, branch_pushAll, State.pushAll_items]
    simp [State.behind]
  rw [readTokens, finish, hbody, State.pushAll_items]
  rfl

theorem readTokens_bar (branches : List Node) (items : List Item) (rest : List Token) :
    readTokens ((State.behind branches).pushAll items) (.plain '|' :: rest) =
      readTokens (State.behind (nodeOf items :: branches)) rest := by
  refine readTokens_cons (n := 0) ?_
  have hbranch := branch_pushAll branches items
  rw [State.pushAll_items] at hbranch ⊢
  simp only [step, State.behind, Bool.false_and, Bool.false_eq_true, if_false, stepBar]
  rw [← hbranch]
  rfl

/-- Tokens that are read as items wherever they stand, and that are allowed. -/
structure Branch where
  tokens : List Token
  items : List Item
  proper : ∀ t ∈ tokens, t.IsProper
  readAs : ReadAs tokens items
  sound : (nodeOf items).problem? false [none] = none

namespace Branch

/-- The text of a branch. -/
def text (r : Branch) : Text := Token.texts r.tokens

/-- The expression that a branch is on its own. -/
def expression (r : Branch) : Expression := { flags := {}, tree := nodeOf r.items }

/-- Branches with bars between them are read as a choice. -/
theorem readTokens_alternatives {rows : List Branch} (hne : rows ≠ []) (branches : List Node) :
    readTokens (State.behind branches) (Token.alternatives (rows.map (·.tokens))) =
      ofTree (.choice (branches.reverse ++ rows.map fun r => nodeOf r.items)) := by
  induction rows generalizing branches with
  | nil => exact absurd rfl hne
  | cons r rows ih =>
    cases rows with
    | nil =>
      have hend := r.readAs (State.behind branches) [] rfl (by simp [SaysGreed])
      rw [List.append_nil] at hend
      exact hend.trans (readTokens_end branches r.items)
    | cons next rows =>
      have hbar := r.readAs (State.behind branches)
        (.plain '|' :: Token.alternatives ((next :: rows).map (·.tokens))) rfl (by simp [SaysGreed])
      have hrest := ih (List.cons_ne_nil next rows) (nodeOf r.items :: branches)
      rw [List.map_cons, List.map_cons, Token.alternatives, ← List.map_cons, hbar, readTokens_bar, hrest,
        List.reverse_cons, List.append_assoc]
      · rfl
      · simp

/-- On its own a branch is its expression. -/
theorem parse_text (r : Branch) : parse r.text = .ok r.expression := by
  have hread := readTokens_alternatives (List.cons_ne_nil r []) []
  refine (parse_texts r.proper).mpr (hread.trans ?_)
  exact ofTree_eq_ok.mpr ⟨r.sound, rfl⟩

end Branch

/-- Tokens that are read as items wherever they stand are a branch if they are an expression. -/
theorem exists_branch {ts : List Token} {items : List Item} (hproper : ∀ t ∈ ts, t.IsProper)
    (hread : ReadAs ts items) {e : Expression} (hparse : parse (Token.texts ts) = .ok e) :
    ∃ r : Branch, r.text = Token.texts ts := by
  have halone := hread (State.behind []) [] rfl (by simp [SaysGreed])
  rw [List.append_nil, readTokens_end, List.reverse_nil, List.nil_append] at halone
  have htree := halone.symm.trans ((parse_texts hproper).mp hparse)
  exact ⟨{ tokens := ts, items := items, proper := hproper, readAs := hread
           sound := (ofTree_eq_ok.mp htree).1 }, rfl⟩

/-! ## 3. Choices -/

namespace Node

/-- A choice is allowed where all its parts are. -/
theorem problem?_choice {template : Bool} {groups : List (Option Width)} {nodes : List Node}
    (h : ∀ node ∈ nodes, node.problem? template groups = none) :
    (choice nodes).problem? template groups = none := by
  fun_induction choice nodes with
  | case1 => rfl
  | case2 node => exact h node List.mem_cons_self
  | case3 node nodes hne ih =>
    obtain ⟨hnode, hnodes⟩ := List.forall_mem_cons.mp h
    simp [problem?, hnode, ih hnodes]

/-- A match of a choice is a match of one of its parts. -/
theorem mem_run_choice {f : Flags} {nodes : List Node} (hne : nodes ≠ []) {k k' : Cursor} :
    k' ∈ (choice nodes).run f k ↔ ∃ node ∈ nodes, k' ∈ node.run f k := by
  fun_induction choice nodes with
  | case1 => exact absurd rfl hne
  | case2 node => simp
  | case3 node nodes hnodes ih =>
    rw [run, List.mem_append, ih hnodes]
    simp

end Node

/-- A search finds a match exactly if one starts at the place or at a later one. -/
theorem Expression.searchFrom_iff_run (e : Expression) (before after : Text) :
    e.searchFrom before after = true ↔
      ∃ v w, after = v ++ w ∧
        ∃ k, k ∈ e.tree.run e.flags { before := v.reverse ++ before, after := w } := by
  induction after generalizing before with
  | nil =>
    simp only [searchFrom, Bool.or_false, Bool.not_eq_true', List.isEmpty_eq_false_iff_exists_mem]
    constructor
    · rintro ⟨k, hk⟩
      exact ⟨[], [], rfl, k, hk⟩
    · rintro ⟨v, w, hsplit, k, hk⟩
      obtain ⟨rfl, rfl⟩ := List.append_eq_nil_iff.mp hsplit.symm
      exact ⟨k, hk⟩
  | cons c after ih =>
    simp only [searchFrom, Bool.or_eq_true, Bool.not_eq_true', List.isEmpty_eq_false_iff_exists_mem, ih]
    constructor
    · rintro (⟨k, hk⟩ | ⟨v, w, rfl, k, hk⟩)
      · exact ⟨[], c :: after, rfl, k, hk⟩
      · exact ⟨c :: v, w, rfl, k, by simpa using hk⟩
    · rintro ⟨v, w, hsplit, k, hk⟩
      cases v with
      | nil =>
        rw [List.nil_append] at hsplit
        subst hsplit
        exact .inl ⟨k, hk⟩
      | cons d v =>
        obtain ⟨rfl, rfl⟩ := List.cons.inj hsplit
        exact .inr ⟨v, w, rfl, k, by simpa using hk⟩

/-- A choice finds a match exactly where one of its parts does. -/
theorem searchFrom_choice {f : Flags} {nodes : List Node} (hne : nodes ≠ []) (t : Text) :
    ({ flags := f, tree := .choice nodes } : Expression).search t = true ↔
      ∃ node ∈ nodes, ({ flags := f, tree := node } : Expression).search t = true := by
  simp only [Expression.search, Expression.searchFrom_iff_run, Node.mem_run_choice hne]
  constructor
  · rintro ⟨v, w, hsplit, k, node, hnode, hk⟩
    exact ⟨node, hnode, v, w, hsplit, k, hk⟩
  · rintro ⟨node, hnode, v, w, hsplit, k, hk⟩
    exact ⟨v, w, hsplit, k, node, hnode, hk⟩

/-! ## 4. Joined branches -/

/-- Branches with bars between them are one expression, which finds what any of them finds. -/
theorem search_join {rows : List Branch} (hne : rows ≠ []) :
    ∃ e, parse (Text.join ['|'] (rows.map (·.text))) = .ok e ∧
      ∀ s, e.search s = true ↔ ∃ r ∈ rows, r.expression.search s = true := by
  have hnodes : rows.map (fun r => nodeOf r.items) ≠ [] := by simpa using hne
  have hproper : ∀ ts ∈ rows.map (·.tokens), ∀ t ∈ ts, t.IsProper := by
    intro ts hts
    obtain ⟨r, -, rfl⟩ := List.mem_map.mp hts
    exact r.proper
  have hsound : ∀ node ∈ rows.map (fun r => nodeOf r.items), node.problem? false [none] = none := by
    intro node hnode
    obtain ⟨r, -, rfl⟩ := List.mem_map.mp hnode
    exact r.sound
  have htext : Text.join ['|'] (rows.map (·.text)) =
      Token.texts (Token.alternatives (rows.map (·.tokens))) := by
    rw [Token.texts_alternatives, List.map_map]
    rfl
  refine ⟨{ flags := {}, tree := .choice (rows.map fun r => nodeOf r.items) }, ?_, fun s => ?_⟩
  · rw [htext, parse_texts (Token.alternatives_proper hproper)]
    exact (Branch.readTokens_alternatives hne []).trans
      (ofTree_eq_ok.mpr ⟨Node.problem?_choice hsound, rfl⟩)
  · rw [searchFrom_choice hnodes]
    simp [Branch.expression]

end SkipPath.Regex
