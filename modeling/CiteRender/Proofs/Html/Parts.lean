import CiteRender.Proofs.Document.Elements
import CiteRender.Proofs.Html.Escaping
import CiteRender.Proofs.Html.Lasting.Front

/-!
# Reading Printed Parts

What is printed in front of a body is read back part by part if it is plain:
blanks, comments and doctypes anywhere, and in the head elements without content
and elements with raw text. Each part takes the reader from one kind of state to
another, whatever stands behind it, so parts can be put together like the
commands of a program.

A blank text is no part by itself, as blanks that stand next to each other are
read as one. It is read together with what comes behind it.

## Main definitions

* `Html.IsFrontText`: A text that begins with blanks and a tag.
* `Html.Reads`: What reading a printed part does.
* `Html.isFiller`: Blanks, comments and doctypes that are read as such.
* `Html.isHeadNode`: The nodes of a plain head.

## Theorems

* `leadsTo_printAll`: Nodes are read if each of them is.
* `reads_filler`: Fillers are read.
* `reads_rootStart`, `reads_headStart`, `reads_headClose`: The tags around the
  head are read.
* `reads_headNode`: The nodes of a plain head are read.
-/

namespace CiteRender

namespace Html

/-! Texts. -/

/-- A text that begins with blanks and a tag. -/
def IsFrontText (s : List Char) : Prop :=
  ∃ blanks rest, (∀ c ∈ blanks, isSpace c = true) ∧ s = blanks ++ '<' :: rest

theorem isFrontText_angle (rest : List Char) : IsFrontText ('<' :: rest) :=
  ⟨[], rest, fun _ h => absurd h List.not_mem_nil, rfl⟩

theorem IsFrontText.append (blanks rest : List Char) (hblanks : ∀ c ∈ blanks, isSpace c = true)
    (h : IsFrontText rest) : IsFrontText (blanks ++ rest) := by
  rcases h with ⟨more, rest, hmore, rfl⟩
  exact ⟨blanks ++ more, rest, List.forall_mem_append.mpr ⟨hblanks, hmore⟩, (List.append_assoc ..).symm⟩

theorem isSpace_of_mem_unifyLines (blanks : List Char) (h : ∀ c ∈ blanks, isSpace c = true) :
    ∀ c ∈ unifyLines blanks, isSpace c = true := by
  intro c hc
  by_cases hnewline : c = '\n'
  · rw [hnewline]
    decide
  · exact h c (mem_unifyLines blanks c hnewline hc)

theorem IsFrontText.unifyLines {s : List Char} (h : IsFrontText s) : IsFrontText (unifyLines s) := by
  rcases h with ⟨blanks, rest, hblanks, rfl⟩
  rw [unifyLines_append _ _ _ (by decide), unifyLines_cons _ _ (by decide)]
  exact ⟨_, _, isSpace_of_mem_unifyLines blanks hblanks, rfl⟩

/-- Such a text does not begin with a byte order mark. -/
theorem IsFrontText.dropMark {s : List Char} (h : IsFrontText s) : dropMark s = s := by
  rcases h with ⟨blanks, rest, hblanks, rfl⟩
  rcases blanks with _ | ⟨c, blanks⟩
  · rfl
  · have hc := hblanks c List.mem_cons_self
    rw [List.cons_append, Html.dropMark]
    rintro _ heq
    rw [(List.cons.inj heq).1] at hc
    exact absurd hc (by decide)

theorem length_unifyLines_append (s rest : List Char) :
    (unifyLines rest).length < (unifyLines (s ++ '>' :: rest)).length := by
  rw [unifyLines_append _ _ _ (by decide), unifyLines_cons _ _ (by decide), List.length_append,
    List.length_cons]
  omega

/-! Parts. -/

/-- Reading a printed part takes the states of one kind to states of another,
    with the text behind it left. -/
def Reads (P Q : Builder → Prop) (part : List Char) : Prop :=
  ∀ b rest, P b → b.readsAnew = false → IsFrontText rest →
    ∃ b', Q b' ∧ b'.readsAnew = false ∧
      Builder.LeadsTo (b, unifyLines (part ++ rest)) (b', unifyLines rest)

section

variable {P Q : Builder → Prop}

/-- One step of reading markup. -/
theorem Builder.IsCalm.step {b : Builder} (h : b.IsCalm) (s rest : List Char) (token : Token)
    (hread : readTokens b.foreignHere s = some ([token], rest))
    (hrest : (b.process token).restFor rest = rest) :
    b.step s = some ({ b.process token with readsAnew := false }, rest) := by
  rw [Builder.step, h.textMode]
  dsimp only
  rw [hread, Option.map_some]
  dsimp only [List.foldl]
  rw [hrest]

theorem Builder.restFor_frontText (b : Builder) (s : List Char) (h : IsFrontText s) :
    b.restFor s = s := by
  rw [Builder.restFor, h.dropMark, ite_self]

/-- A part that is read as one token does what the token does. -/
theorem reads_of_token (T : Token → Prop) (part : List Char)
    (hread : ∀ inForeign rest, ∃ token, T token ∧
      readTokens inForeign (unifyLines (part ++ '>' :: rest)) = some ([token], unifyLines rest))
    (hcalm : ∀ b, P b → b.IsCalm)
    (hprocess : ∀ b token, P b → T token → Q { b.process token with readsAnew := false }) :
    Reads P Q (part ++ ['>']) := by
  intro b rest hb _ hrest
  rcases hread b.foreignHere rest with ⟨token, htoken, htokens⟩
  have hstep := (hcalm b hb).step _ _ token htokens
    (Builder.restFor_frontText _ _ hrest.unifyLines)
  rw [List.append_assoc, List.singleton_append]
  exact ⟨_, hprocess b token hb htoken, rfl,
    .of_step hstep (length_unifyLines_append part rest)⟩

/-- Blanks are read up to what comes behind them. -/
theorem leadsTo_blanks (hP : Builder.PassesBy P) (blanks rest : List Char)
    (hblanks : ∀ c ∈ blanks, isSpace c = true) (b : Builder) (hb : P b)
    (hanew : b.readsAnew = false) :
    ∃ b', P b' ∧ b'.readsAnew = false ∧
      Builder.LeadsTo (b, unifyLines (blanks ++ '<' :: rest)) (b', unifyLines ('<' :: rest)) := by
  have hunified := isSpace_of_mem_unifyLines blanks hblanks
  rw [unifyLines_append _ _ _ (by decide), unifyLines_cons _ _ (by decide)]
  generalize unifyLines blanks = unified at hunified
  rcases unified with _ | ⟨c, s⟩
  · exact ⟨b, hb, hanew, .refl _⟩
  · have hstep := (hP.calm b hb).step _ _ _
      (readTokens_blanks b.foreignHere c s (unifyLines rest) hunified)
      (Builder.restFor_frontText _ _ (isFrontText_angle _))
    refine ⟨_, hP.anew _ (hP.blanks b _ hb), rfl, .of_step hstep ?_⟩
    simp

/-! Nodes. -/

variable {ι : Type}

/-- Whether a node is a text of blanks. -/
def isBlankText : Node ι → Bool
  | .text s => s.toList.all isSpace
  | _ => false

/-- Whether a node changes nothing of what is open: blanks, comments and
    doctypes. -/
def isFiller : Node ι → Bool
  | .comment s => isWholeComment (unifyLines s.toList)
  | .doctype name => isWholeName name.toList
  | node => isBlankText node

/-- A node that is printed as a part by itself, which keeps a kind of states. -/
structure ReadsNode (P : Builder → Prop) (node : Node ι) : Prop where
  opens : ∃ more, node.print false false = '<' :: more
  reads : Reads P P (node.print false false)

theorem escapeText_blanks (s : List Char) (h : ∀ c ∈ s, isSpace c = true) : escapeText s = s := by
  refine escapeText_eq_self s fun c hc hmem => ?_
  have hnone : (references.map Prod.snd).all (fun d => !isSpace d) = true := by decide
  have hspace := List.all_eq_true.mp hnone c hmem
  rw [h c hc] at hspace
  exact absurd hspace (by decide)

/-- What a blank text is printed as. -/
theorem print_blankText (node : Node ι) (h : isBlankText node = true) :
    ∀ c ∈ node.print false false, isSpace c = true := by
  cases node with
  | text s =>
      have hs : s.toList.all isSpace = true := h
      rw [List.all_eq_true] at hs
      rw [Node.print_text, escapeText_blanks _ hs]
      exact hs
  | _ => exact absurd h (by simp [isBlankText])

/-- Nodes in front of a tag begin with blanks and a tag. -/
theorem isFrontText_printAll (nodes : List (Node ι))
    (h : ∀ node ∈ nodes, isBlankText node = true ∨ ReadsNode P node) (part rest : List Char)
    (hopens : part.head? = some '<') :
    IsFrontText (Node.printAll false false nodes ++ (part ++ rest)) := by
  induction nodes with
  | nil =>
      rcases List.head?_eq_some_iff.mp hopens with ⟨more, rfl⟩
      exact isFrontText_angle (more ++ rest)
  | cons node nodes ih =>
      rw [List.forall_mem_cons] at h
      rw [Node.printAll_cons, List.append_assoc]
      rcases h.1 with hblank | hreads
      · exact (ih h.2).append _ _ (print_blankText node hblank)
      · rcases hreads.opens with ⟨more, hmore⟩
        rw [hmore]
        exact isFrontText_angle _

/-- Nodes are read up to the next tag if each of them is. The induction carries
    the blanks that stand in front of the nodes, as they are read with those
    behind them. -/
theorem leadsTo_nodes (hP : Builder.PassesBy P) (nodes : List (Node ι))
    (h : ∀ node ∈ nodes, isBlankText node = true ∨ ReadsNode P node) (rest : List Char) :
    ∀ (blanks : List Char) (b : Builder), (∀ c ∈ blanks, isSpace c = true) → P b →
      b.readsAnew = false → ∃ b', P b' ∧ b'.readsAnew = false ∧
        Builder.LeadsTo (b, unifyLines (blanks ++ (Node.printAll false false nodes ++ '<' :: rest)))
          (b', unifyLines ('<' :: rest)) := by
  induction nodes with
  | nil =>
      intro blanks b hblanks hb hanew
      exact leadsTo_blanks hP blanks rest hblanks b hb hanew
  | cons node nodes ih =>
      intro blanks b hblanks hb hanew
      rw [List.forall_mem_cons] at h
      rw [Node.printAll_cons, List.append_assoc]
      -- Blanks are held back and read with those before the next tag.
      rcases h.1 with hblank | hreads
      · rw [← List.append_assoc]
        exact ih h.2 _ b (List.forall_mem_append.mpr ⟨hblanks, print_blankText node hblank⟩) hb hanew
      · rcases hreads.opens with ⟨more, hmore⟩
        have hfront := isFrontText_printAll nodes h.2 ['<'] rest rfl
        rcases leadsTo_blanks hP blanks (more ++ (Node.printAll false false nodes ++ '<' :: rest))
          hblanks b hb hanew with ⟨before, hbefore, hbeforeAnew, hleads⟩
        rw [← List.cons_append, ← hmore] at hleads
        rcases hreads.reads before _ hbefore hbeforeAnew hfront with ⟨behind, hbehind, hbehindAnew, hnode⟩
        rcases ih h.2 [] behind (fun _ hc => absurd hc List.not_mem_nil) hbehind hbehindAnew with
          ⟨b', hb', hanew', hnodes⟩
        exact ⟨b', hb', hanew', (hleads.trans hnode).trans hnodes⟩

theorem unifyLines_comment (s rest : List Char) :
    unifyLines ("<!--".toList ++ (s ++ "--".toList) ++ '>' :: rest) =
      "<!--".toList ++ (unifyLines s ++ ("-->".toList ++ unifyLines rest)) := by
  have hmark : '\r' ∉ "<!--".toList := by decide
  have hend : unifyLines ("--".toList ++ '>' :: rest) = "-->".toList ++ unifyLines rest := by
    rw [unifyLines_append_of_notMem _ _ (by decide), unifyLines_cons _ _ (by decide)]
    simp
  rw [List.append_assoc, unifyLines_append_of_notMem _ _ hmark, List.append_assoc, ← hend]
  rw [show "--".toList = ['-', '-'] by decide, List.cons_append, unifyLines_append _ _ _ (by decide)]

/-- A comment that ends where it was meant to is read. -/
theorem reads_comment (hP : Builder.PassesBy P) (s : String)
    (h : isWholeComment (unifyLines s.toList) = true) : ReadsNode P (Node.comment (ι := ι) s) := by
  have hprint : (Node.comment (ι := ι) s).print false false =
      ("<!--".toList ++ (s.toList ++ "--".toList)) ++ ['>'] := by
    rw [Node.print_comment]
    simp
  refine ⟨⟨"!--".toList ++ (s.toList ++ "-->".toList), by rw [hprint]; simp⟩, ?_⟩
  rw [hprint]
  refine reads_of_token (fun token => ∃ body, token = .comment body) _ (fun inForeign rest => ?_)
    hP.calm ?_
  · rcases readTokens_comment inForeign _ (unifyLines rest) h with ⟨body, hbody⟩
    exact ⟨_, ⟨body, rfl⟩, by rw [unifyLines_comment, hbody]⟩
  · rintro b _ hb ⟨body, rfl⟩
    exact hP.anew _ (hP.comment b body hb)

/-- A doctype whose name ends where it was meant to is read. -/
theorem reads_doctype (hP : Builder.PassesBy P) (name : String)
    (h : isWholeName name.toList = true) : ReadsNode P (Node.doctype (ι := ι) name) := by
  have hprint : (Node.doctype (ι := ι) name).print false false =
      ("<!DOCTYPE ".toList ++ name.toList) ++ ['>'] := Node.print_doctype name
  have hreturn : '\r' ∉ "<!DOCTYPE ".toList ++ name.toList := by
    rw [List.mem_append, not_or]
    refine ⟨by decide, fun hmem => ?_⟩
    have hc := List.all_eq_true.mp h _ hmem
    exact absurd hc (by decide)
  refine ⟨⟨"!DOCTYPE ".toList ++ (name.toList ++ ['>']), by rw [hprint]; simp⟩, ?_⟩
  rw [hprint]
  refine reads_of_token (fun token => ∃ d, token = .doctype d) _ (fun inForeign rest => ?_)
    hP.calm ?_
  · rcases readTokens_doctype inForeign _ (unifyLines rest) h with ⟨d, hd⟩
    refine ⟨_, ⟨d, rfl⟩, ?_⟩
    rw [unifyLines_append_of_notMem _ _ hreturn, unifyLines_cons _ _ (by decide), List.append_assoc, hd]
  · rintro b _ hb ⟨d, rfl⟩
    exact hP.anew _ (hP.doctype b d hb)

/-- Nodes are read up to the next tag if each of them is. -/
theorem leadsTo_printAll (hP : Builder.PassesBy P) (nodes : List (Node ι))
    (h : ∀ node ∈ nodes, isBlankText node = true ∨ ReadsNode P node) (rest : List Char)
    (hrest : rest.head? = some '<') (b : Builder) (hb : P b) (hanew : b.readsAnew = false) :
    ∃ b', P b' ∧ b'.readsAnew = false ∧
      Builder.LeadsTo (b, unifyLines (Node.printAll false false nodes ++ rest))
        (b', unifyLines rest) := by
  rcases List.head?_eq_some_iff.mp hrest with ⟨more, rfl⟩
  exact leadsTo_nodes hP nodes h more [] b (fun _ hc => absurd hc List.not_mem_nil) hb hanew

/-- Nodes and the part behind them are read, each in its way. -/
theorem leadsTo_part (hP : Builder.PassesBy P) (nodes : List (Node ι))
    (h : ∀ node ∈ nodes, isBlankText node = true ∨ ReadsNode P node) {part rest : List Char}
    (hpart : Reads P Q part) (hopens : part.head? = some '<') (hrest : IsFrontText rest)
    (b : Builder) (hb : P b) (hanew : b.readsAnew = false) :
    ∃ b', Q b' ∧ b'.readsAnew = false ∧
      Builder.LeadsTo (b, unifyLines (Node.printAll false false nodes ++ (part ++ rest)))
        (b', unifyLines rest) := by
  have hhead : (part ++ rest).head? = some '<' := by rw [List.head?_append, hopens, Option.some_or]
  rcases leadsTo_printAll hP nodes h _ hhead b hb hanew with ⟨before, hbefore, hbeforeAnew, hleads⟩
  rcases hpart before rest hbefore hbeforeAnew hrest with ⟨b', hb', hanew', hleads'⟩
  exact ⟨b', hb', hanew', hleads.trans hleads'⟩

/-- Blanks, comments and doctypes are read without a trace on what is open. -/
theorem reads_filler (hP : Builder.PassesBy P) (node : Node ι) (h : isFiller node = true) :
    isBlankText node = true ∨ ReadsNode P node := by
  cases node with
  | text s => exact Or.inl h
  | comment s => exact Or.inr (reads_comment hP s h)
  | doctype name => exact Or.inr (reads_doctype hP name h)
  | element => exact absurd h (by simp [isFiller, isBlankText])

/-! Tags. -/

/-- A printed start tag does what a tag of its name does. -/
theorem reads_start (tag : Tag) (attributes : List Attribute)
    (htag : isTagText tag.name.toList = true) (hreadable : ∀ a ∈ attributes, IsReadable a)
    (hcalm : ∀ b, P b → b.IsCalm)
    (hprocess : ∀ b (start : StartTag), P b → start.name = tag.name →
      Q { b.process (.start start) with readsAnew := false }) :
    Reads P Q (printStart tag attributes) := by
  refine reads_of_token (fun token => ∃ start : StartTag, start.name = tag.name ∧ token = .start start)
    _ (fun inForeign rest => ?_) hcalm ?_
  · rcases readTokens_printStart inForeign tag attributes rest htag hreadable with
      ⟨start, hname, -, -, hread⟩
    refine ⟨_, ⟨start, hname, rfl⟩, ?_⟩
    rw [← hread, printStart, List.append_assoc _ ['>'], List.singleton_append]
  · rintro b _ hb ⟨start, hname, rfl⟩
    exact hprocess b start hb hname

theorem unifyLines_printClose (tag : Tag) (rest : List Char)
    (htag : isTagText tag.name.toList = true) :
    unifyLines (printClose tag ++ rest) = printClose tag ++ unifyLines rest := by
  rw [isTagText, Bool.and_eq_true] at htag
  refine unifyLines_append_of_notMem _ _ ?_
  simpa [printClose] using notMem_of_isAttributeName _ '\r' (by decide) htag.2

/-- A printed end tag does what an end tag of its name does. -/
theorem reads_close (tag : Tag) (htag : isTagText tag.name.toList = true)
    (hcalm : ∀ b, P b → b.IsCalm)
    (hprocess : ∀ b, P b → Q { b.process (.close tag.name) with readsAnew := false }) :
    Reads P Q (printClose tag) := by
  refine reads_of_token (· = .close tag.name) _ (fun inForeign rest => ⟨_, rfl, ?_⟩) hcalm ?_
  · have hunified := unifyLines_printClose tag rest htag
    rw [printClose, List.append_assoc, List.append_assoc, List.singleton_append,
      List.singleton_append] at hunified
    rw [hunified, readTokens_close inForeign tag.name _ htag]
  · rintro b _ hb rfl
    exact hprocess b hb

variable {html x : Nat} {stack : List Nat}

/-- The start tag of the root opens it. -/
theorem reads_rootStart (attributes : List Attribute) (hreadable : ∀ a ∈ attributes, IsReadable a) :
    Reads Builder.IsUnrooted (fun b => ∃ html, b.IsAhead html .beforeHead [html])
      (printStart (.html "html") attributes) :=
  reads_start _ _ (by decide) hreadable (fun _ hb => hb.toIsCalm) fun _ start hb hname =>
    ⟨_, (hb.processRoot start hname).withAnew false⟩

/-- The start tag of the head opens it. -/
theorem reads_headStart (attributes : List Attribute) (hreadable : ∀ a ∈ attributes, IsReadable a) :
    Reads (Builder.IsAhead html .beforeHead [html])
      (fun b => ∃ head, b.IsAhead html .inHead [head, html])
      (printStart (.html "head") attributes) :=
  reads_start _ _ (by decide) hreadable (fun _ hb => hb.toIsCalm) fun _ start hb hname =>
    ⟨_, (hb.processHead start hname).withAnew false⟩

/-- The end tag of the head closes it. -/
theorem reads_headClose : Reads (Builder.IsAhead html .inHead (x :: stack))
    (Builder.IsAhead html .afterHead stack) (printClose (.html "head")) :=
  reads_close _ (by decide) (fun _ hb => hb.toIsCalm) fun _ hb => hb.processHeadEnd.withAnew false

/-- An element of the head without content is read. -/
theorem reads_void (tag : Tag) (attributes : List Attribute) (htag : tag.name ∈ headVoidNames)
    (hreadable : ∀ a ∈ attributes, IsReadable a) :
    Reads (Builder.IsAhead html .inHead (x :: stack)) (Builder.IsAhead html .inHead (x :: stack))
      (printStart tag attributes) := by
  have htext : isTagText tag.name.toList = true :=
    (by decide : ∀ name ∈ headVoidNames, isTagText name.toList = true) _ htag
  exact reads_start tag attributes htext hreadable (fun _ hb => hb.toIsCalm)
    fun b start hb hname => (hb.processVoid start (hname ▸ htag)).withAnew false

/-- An element of the head with raw text is read if the text ends at the end tag
    of the element. -/
theorem reads_text (tag : Tag) (attributes : List Attribute) (inside : List Char)
    (htag : tag.name ∈ headTextNames) (hreadable : ∀ a ∈ attributes, IsReadable a)
    (hinside : isWholeText tag (unifyLines inside) = true) :
    Reads (Builder.IsAhead html .inHead (x :: stack)) (Builder.IsAhead html .inHead (x :: stack))
      (printStart tag attributes ++ inside ++ printClose tag) := by
  have htext : isTagText tag.name.toList = true :=
    (by decide : ∀ name ∈ headTextNames, isTagText name.toList = true) _ htag
  intro b rest hb hanew hrest
  -- Three readings in a row: the start tag, the text up to the end tag, and that tag.
  have hclose : Reads (Builder.IsInText html b.nodes.size (x :: stack))
      (Builder.IsAhead html .inHead (x :: stack)) (printClose tag) :=
    reads_close tag htext (fun _ hb => hb.toIsCalm) fun b hb => (hb.close tag.name).withAnew false
  rcases readTokens_printStart b.foreignHere tag attributes (inside ++ (printClose tag ++ rest)) htext
    hreadable with ⟨start, hname, -, -, hread⟩
  rcases hb.processText start (hname ▸ htag) hanew with ⟨hmode, hopened⟩
  have hstart := hb.toIsCalm.step _ _ _ hread (by rw [Builder.restFor, hopened.anew, if_neg (by simp)])
  have hunified : unifyLines (inside ++ (printClose tag ++ rest)) =
      unifyLines inside ++ (printClose tag ++ unifyLines rest) := by
    rw [← unifyLines_printClose tag rest htext, printClose, List.cons_append, List.cons_append,
      unifyLines_append _ _ _ (by decide)]
  have hbehind : behindText tag.name (unifyLines (inside ++ (printClose tag ++ rest))) =
      unifyLines (printClose tag ++ rest) := by
    rw [hunified, behindText_append tag _ _ hinside, unifyLines_printClose tag rest htext]
  have hsame : { b.process (.start start) with readsAnew := false } = b.process (.start start) := by
    rw [← hopened.anew]
  -- The text ends where it did when it stood alone, which is in front of its own end tag.
  rcases Builder.step_text tag.name (hname ▸ hmode) (unifyLines (inside ++ (printClose tag ++ rest)))
    with ⟨tokens, htokens, hinner⟩
  rw [hbehind] at hinner
  rw [hsame] at hstart
  have hended := hopened.foldl tokens htokens
  rcases hclose _ rest hended hended.anew hrest with ⟨b', hb', hclosed, hleads⟩
  have hlength : (unifyLines (printClose tag ++ rest)).length <
      (unifyLines (printStart tag attributes ++ (inside ++ (printClose tag ++ rest)))).length := by
    have hshorter := length_unifyLines_append ('<' :: tag.name.toList ++ attributes.flatMap printAttribute)
      (inside ++ (printClose tag ++ rest))
    rw [hunified, List.length_append, ← unifyLines_printClose tag rest htext] at hshorter
    rw [printStart, List.append_assoc _ ['>'], List.singleton_append]
    omega
  refine ⟨b', hb', hclosed, ?_⟩
  rw [List.append_assoc, List.append_assoc]
  exact (Builder.LeadsTo.of_steps hstart hinner hlength).trans hleads

/-- Whether a node may stand in a plain head: blanks, comments, elements without
    content, and elements with raw text that ends at their end tag. -/
def isHeadNode : Node ι → Bool
  | .element _ tag _ _ children =>
    tag.isOneOf headVoidNames && children.isEmpty ||
      tag.isOneOf headTextNames && (Node.elementsIn children).isEmpty &&
        isWholeText tag (unifyLines (Node.printAll (isRaw tag) false children))
  | node => isFiller node

theorem space_of_isOneOf (tag : Tag) (names : List String) (h : tag.isOneOf names = true) :
    tag.space = .html ∧ tag.name ∈ names := by
  rw [Tag.isOneOf, Bool.and_eq_true, decide_eq_true_eq, List.contains_iff_mem] at h
  exact h

/-- Elements of some names are printed in one way. -/
theorem kind_of_isOneOf (tag : Tag) (names : List String) (h : tag.isOneOf names = true)
    (void : Bool)
    (hnames : ∀ name ∈ names, name ≠ "template" ∧ voidNames.contains name = void) :
    tag.isNamed "template" = false ∧ isVoid tag = void := by
  rcases space_of_isOneOf tag names h with ⟨hspace, hmem⟩
  rcases hnames tag.name hmem with ⟨htemplate, hvoid⟩
  exact ⟨by simp [Tag.isNamed, htemplate], by simp [isVoid, Tag.isOneOf, hspace, ← hvoid]⟩

/-- The nodes of a plain head are read. -/
theorem reads_headNode (node : Node ι) (h : isHeadNode node = true)
    (hreadable : ∀ e ∈ Node.elementsIn [node], e.tag.space = .html → ∀ a ∈ e.attributes, IsReadable a) :
    isBlankText node = true ∨ ReadsNode (Builder.IsAhead html .inHead (x :: stack)) node := by
  have hpasses : Builder.PassesBy (Builder.IsAhead html .inHead (x :: stack)) :=
    Builder.IsAhead.passesBy (Or.inr (Or.inl rfl))
  have hfiller := reads_filler hpasses node
  cases node with
  | text s => exact hfiller h
  | comment s => exact hfiller h
  | doctype name => exact hfiller h
  | element label tag attributes contents children =>
      have hattributes := hreadable ⟨label, tag, attributes, contents, children⟩
        (by rw [Node.elementsIn_element]; exact List.mem_cons_self)
      rw [isHeadNode, Bool.or_eq_true, Bool.and_eq_true, Bool.and_eq_true, Bool.and_eq_true] at h
      -- An element without contents, or one that holds nothing but text.
      rcases h with ⟨hnames, hempty⟩ | ⟨⟨hnames, -⟩, hwhole⟩
      · rcases space_of_isOneOf tag _ hnames with ⟨hspace, hmem⟩
        have hkinds := kind_of_isOneOf tag _ hnames true (by decide)
        obtain rfl := List.isEmpty_iff.mp hempty
        refine Or.inr ⟨?_, ?_⟩
        · rw [Node.print_void _ _ _ _ hkinds.1 hkinds.2]
          exact ⟨_, rfl⟩
        · rw [Node.print_void _ _ _ _ hkinds.1 hkinds.2]
          exact reads_void tag attributes hmem (hattributes hspace)
      · rcases space_of_isOneOf tag _ hnames with ⟨hspace, hmem⟩
        have hkinds := kind_of_isOneOf tag _ hnames false (by decide)
        refine Or.inr ⟨?_, ?_⟩
        · rw [Node.print_element _ _ _ _ _ hkinds.1 hkinds.2]
          exact ⟨_, rfl⟩
        · rw [Node.print_element _ _ _ _ _ hkinds.1 hkinds.2]
          exact reads_text tag attributes _ hmem (hattributes hspace) hwhole

end

end Html

end CiteRender
