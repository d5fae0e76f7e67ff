import RouteHighlight.Proofs.Lexer.Events

/-!
# The log of a pass

The events of a pass tell how it came from one mode to the next, and which of its tokens no rule
gave.  A scan logs events between the byte at which it begins and the byte at which it stops, so the
logs of scans that follow one another make up one log (`Traced.append`).
-/

namespace RouteHighlight

open Text (byteLength)
open Piece (plain layOut)

/-! ## Logs -/

namespace Event

def offset? : Event → Option Nat
  | .modeChange _ _ offset | .unmatched _ offset => some offset
  | .registering .. => none

def changeOffset? : Event → Option Nat
  | .modeChange _ _ offset => some offset
  | .unmatched .. | .registering .. => none

def unmatchedOffset? : Event → Option Nat
  | .unmatched _ offset => some offset
  | .modeChange .. | .registering .. => none

/-- Events of a pass that lead from a mode to a mode.  A change starts from the mode to which the
change before it led, and leads to another one; a character is reported in the mode to which the
last change before it led. -/
def Leads : Mode → List Event → Mode → Prop
  | mode, [], final => mode = final
  | mode, .modeChange source target _ :: events, final =>
    source = mode ∧ target ≠ source ∧ Leads target events final
  | mode, .unmatched current _ :: events, final => current = mode ∧ Leads mode events final
  | _, .registering .. :: _, _ => False

theorem Leads.append {mode mid final : Mode} {events more : List Event}
    (h : Leads mode events mid) (h' : Leads mid more final) :
    Leads mode (events ++ more) final := by
  induction events generalizing mode with
  | nil =>
      obtain rfl : mode = mid := h
      exact h'
  | cons event events ih =>
      cases event with
      | modeChange source target offset => exact ⟨h.1, h.2.1, ih h.2.2⟩
      | unmatched current offset => exact ⟨h.1, ih h.2⟩
      | registering name aliases filenames => exact h.elim

theorem offset?_of_changeOffset? {event : Event} {offset : Nat}
    (h : event.changeOffset? = some offset) : event.offset? = some offset := by
  cases event with
  | modeChange source target place => exact h
  | unmatched mode place => simp [changeOffset?] at h
  | registering name aliases filenames => simp [changeOffset?] at h

end Event

/-- The tokens of plain text, without the parentheses of parameter lists.  A parameter list is the
only match of three tokens. -/
def Token.bareText : List Token → List Token
  | ⟨.text, "(", _⟩ :: ⟨.variable, _, _⟩ :: ⟨.text, ")", _⟩ :: tokens => bareText tokens
  | token :: tokens => if token.kind = .text then token :: bareText tokens else bareText tokens
  | [] => []

/-- How `events` account for the tokens of a pass from byte `start`, in mode `mode`, to byte
`stop`, in mode `final`. -/
structure Traced (mode : Mode) (start : Nat) (tokens : List Token) (events : List Event)
    (final : Mode) (stop : Nat) : Prop where
  leads : Event.Leads mode events final
  changes_increase : (events.filterMap Event.changeOffset?).Pairwise (· < ·)
  change_at_stop : ∀ offset ∈ events.filterMap Event.changeOffset?,
    ∃ token ∈ tokens, token.span.stop = offset
  reports_eq : events.filterMap Event.unmatchedOffset? =
    (Token.bareText tokens).map (·.span.start)
  offsets_sorted : (events.filterMap Event.offset?).Pairwise (· ≤ ·)
  offset_bounds : ∀ offset ∈ events.filterMap Event.offset?, start ≤ offset ∧ offset ≤ stop
  start_lt_change : ∀ offset ∈ events.filterMap Event.changeOffset?, start < offset

namespace Traced

variable {mode mid final : Mode} {start place stop : Nat} {tokens more : List Token}
  {events later : List Event}

theorem nil (mode : Mode) (start : Nat) : Traced mode start [] [] mode start := by
  constructor <;> simp [Event.Leads, Token.bareText]

theorem change_le (h : Traced mode start tokens events final stop) {offset : Nat}
    (hoffset : offset ∈ events.filterMap Event.changeOffset?) : offset ≤ stop := by
  obtain ⟨event, hevent, hchange⟩ := List.mem_filterMap.1 hoffset
  have hmem : offset ∈ events.filterMap Event.offset? :=
    List.mem_filterMap.2 ⟨event, hevent, Event.offset?_of_changeOffset? hchange⟩
  exact (h.offset_bounds offset hmem).2

theorem append (h : Traced mode start tokens events mid place)
    (h' : Traced mid place more later final stop) (hstart : start ≤ place) (hstop : place ≤ stop)
    (hbare : Token.bareText (tokens ++ more) = Token.bareText tokens ++ Token.bareText more) :
    Traced mode start (tokens ++ more) (events ++ later) final stop where
  leads := h.leads.append h'.leads
  changes_increase := by
    rw [List.filterMap_append, List.pairwise_append]
    -- a change is logged behind its scan, hence past the place where the scan began
    refine ⟨h.changes_increase, h'.changes_increase, fun a ha b hb => ?_⟩
    exact Nat.lt_of_le_of_lt (h.change_le ha) (h'.start_lt_change b hb)
  change_at_stop := by
    intro offset hmem
    rw [List.filterMap_append, List.mem_append] at hmem
    rcases hmem with hmem | hmem
    · obtain ⟨token, htoken, heq⟩ := h.change_at_stop offset hmem
      exact ⟨token, List.mem_append_left _ htoken, heq⟩
    · obtain ⟨token, htoken, heq⟩ := h'.change_at_stop offset hmem
      exact ⟨token, List.mem_append_right _ htoken, heq⟩
  reports_eq := by
    rw [List.filterMap_append, hbare, List.map_append, h.reports_eq, h'.reports_eq]
  offsets_sorted := by
    rw [List.filterMap_append, List.pairwise_append]
    refine ⟨h.offsets_sorted, h'.offsets_sorted, fun a ha b hb => ?_⟩
    exact Nat.le_trans (h.offset_bounds a ha).2 (h'.offset_bounds b hb).1
  offset_bounds := by
    intro offset hmem
    rw [List.filterMap_append, List.mem_append] at hmem
    rcases hmem with hmem | hmem
    · have hbounds := h.offset_bounds offset hmem
      exact ⟨hbounds.1, Nat.le_trans hbounds.2 hstop⟩
    · have hbounds := h'.offset_bounds offset hmem
      exact ⟨Nat.le_trans hstart hbounds.1, hbounds.2⟩
  start_lt_change := by
    intro offset hmem
    rw [List.filterMap_append, List.mem_append] at hmem
    rcases hmem with hmem | hmem
    · exact h.start_lt_change offset hmem
    · exact Nat.lt_of_le_of_lt hstart (h'.start_lt_change offset hmem)

theorem of_report (hle : start ≤ stop)
    (h : events = [] ∧ Token.bareText tokens = [] ∨
      events = [.unmatched mode start] ∧ (Token.bareText tokens).map (·.span.start) = [start]) :
    Traced mode start tokens events mode stop := by
  rcases h with ⟨rfl, hbare⟩ | ⟨rfl, hbare⟩
  · exact ⟨rfl, .nil, nofun, by rw [hbare]; rfl, .nil, nofun, nofun⟩
  · exact ⟨⟨rfl, rfl⟩, .nil, nofun, hbare.symm, List.pairwise_singleton _ _,
      List.forall_mem_singleton.2 ⟨Nat.le_refl _, hle⟩, nofun⟩

theorem change (h : Traced mode start tokens events mid stop)
    (hfirst : events.filterMap Event.changeOffset? = []) (hne : final ≠ mid)
    (hlt : start < stop) (hlast : ∃ token ∈ tokens, token.span.stop = stop) :
    Traced mode start tokens (events ++ [.modeChange mid final stop]) final stop where
  leads := h.leads.append ⟨rfl, hne, rfl⟩
  changes_increase := by
    rw [List.filterMap_append, hfirst]
    exact List.pairwise_singleton _ _
  change_at_stop := by
    rw [List.filterMap_append, hfirst]
    exact List.forall_mem_singleton.2 hlast
  reports_eq := by
    rw [List.filterMap_append, h.reports_eq]
    exact List.append_nil _
  offsets_sorted := by
    rw [List.filterMap_append, List.pairwise_append]
    refine ⟨h.offsets_sorted, List.pairwise_singleton _ _, fun a ha b hb => ?_⟩
    obtain rfl : b = stop := List.mem_singleton.1 hb
    exact (h.offset_bounds a ha).2
  offset_bounds := by
    intro offset hmem
    rw [List.filterMap_append, List.mem_append] at hmem
    rcases hmem with hmem | hmem
    · exact h.offset_bounds offset hmem
    · obtain rfl : offset = stop := List.mem_singleton.1 hmem
      exact ⟨Nat.le_of_lt hlt, Nat.le_refl _⟩
  start_lt_change := by
    rw [List.filterMap_append, hfirst]
    exact List.forall_mem_singleton.2 hlt

end Traced

variable {options : LexerOptions} {mode target final : Mode} {text rest : List Char}
  {pieces : List Piece} {chunks : List (List Piece)}

/-! ## One scan -/

theorem Token.bareText_singleton_append {token : Token} {more : List Token}
    (h : token.kind = .text)
    (hnext : token.text = "(" → ∀ next ∈ more.head?, next.kind ≠ .variable) :
    bareText ([token] ++ more) = token :: bareText more := by
  rw [List.singleton_append, bareText, if_pos h]
  rintro span name inner close back rfl rfl
  exact hnext rfl _ rfl rfl

theorem Token.bareText_singleton {token : Token} (h : token.kind = .text) :
    bareText [token] = [token] :=
  have hempty : ∀ next ∈ ([] : List Token).head?, next.kind ≠ .variable := nofun
  bareText_singleton_append h fun _ => hempty

theorem Piece.exists_stop_layOut (base : Nat) {pieces : List Piece} (h : pieces ≠ []) :
    ∃ token ∈ layOut base pieces, token.span.stop = base + byteLength (plain pieces) := by
  induction pieces generalizing base with
  | nil => contradiction
  | cons p ps ih =>
      rw [layOut_cons, plain_cons, Text.byteLength_append]
      by_cases hps : ps = []
      · subst hps
        exact ⟨_, List.mem_cons_self, by simp [token]⟩
      · obtain ⟨last, hlast, hstop⟩ := ih (base + byteLength p.text) hps
        exact ⟨last, List.mem_cons_of_mem _ hlast, by rw [hstop, Nat.add_assoc]⟩

namespace Reads

theorem reportOf_cases (h : Reads mode text pieces target rest) (s : Stream) :
    s.reportOf pieces = [] ∧ Token.bareText (layOut s.position pieces) = [] ∨
      s.reportOf pieces = [.unmatched s.mode s.position] ∧
        (Token.bareText (layOut s.position pieces)).map (·.span.start) = [s.position] := by
  cases h with
  | rootOther blank hash opens =>
      exact .inr ⟨rfl, congrArg _ (Token.bareText_singleton rfl)⟩
  | colon stops => exact .inr ⟨rfl, congrArg _ (Token.bareText_singleton rfl)⟩
  | objectOther word newline opens =>
      exact .inr ⟨rfl, congrArg _ (Token.bareText_singleton rfl)⟩
  | _ => exact .inl ⟨rfl, rfl⟩

/-- The log of a scan: at most one report, of the first character, and at most one change of mode,
behind the last. -/
theorem traced (h : Reads mode text pieces target rest) (options : LexerOptions)
    (position : Nat) :
    Traced mode position (layOut position pieces) (Stream.poised options position mode text).scan.2
      (options.landing (plain pieces) target) (position + byteLength (plain pieces)) := by
  have hreport := h.reportOf_cases (Stream.poised options position mode text)
  have hfirst : ((Stream.poised options position mode text).reportOf pieces).filterMap
      Event.changeOffset? = [] := by
    rcases hreport with ⟨hnil, -⟩ | ⟨hone, -⟩
    · rw [hnil]
      rfl
    · rw [hone]
      rfl
  have hlt : position < position + byteLength (plain pieces) :=
    Nat.lt_add_of_pos_right (Text.byteLength_pos h.plain_ne_nil)
  have htraced := Traced.of_report (Nat.le_of_lt hlt) hreport
  rw [Reads.scan_events (s := Stream.poised options position mode text) h, h.scan_eq_after,
    Stream.changeTo]
  split
  next hsame =>
    have hmode : options.landing (plain pieces) target = mode := hsame
    rw [List.append_nil, hmode]
    exact htraced
  next hne =>
    exact htraced.change hfirst hne hlt (Piece.exists_stop_layOut position h.pieces_ne_nil)

/-- What is plain text does not depend on the scans that follow, since a parameter list is read in
one scan with its parentheses. -/
theorem bareText_append (h : Reads mode text pieces target rest) (position : Nat)
    {more : List Token}
    (hnext : target ≠ .url → ∀ next ∈ more.head?, next.kind ≠ .variable) :
    Token.bareText (layOut position pieces ++ more) =
      Token.bareText (layOut position pieces) ++ Token.bareText more := by
  have htext {piece : Piece} (hkind : piece.kind = .text)
      (hopen : piece.text = ['('] → ∀ next ∈ more.head?, next.kind ≠ .variable) :
      Token.bareText (layOut position [piece] ++ more) =
        Token.bareText (layOut position [piece]) ++ Token.bareText more := by
    rw [Piece.layOut_cons, Piece.layOut_nil, Token.bareText_singleton hkind]
    refine Token.bareText_singleton_append hkind fun heq => hopen ?_
    exact String.ofList_injective heq
  cases h with
  | rootOther blank hash opens => exact htext rfl fun _ => hnext (by simp)
  | colon stops => exact htext rfl fun hopen => absurd hopen (by decide)
  | objectOther word newline opens => exact htext rfl fun _ => hnext (by simp)
  | _ => rfl

end Reads

/-! ## A run -/

theorem Run.head_kind_ne_variable (h : Run options mode text chunks final rest)
    (hmode : mode ≠ .url) (position : Nat) :
    ∀ token ∈ (layOut position chunks.flatten).head?, token.kind ≠ .variable := by
  cases h with
  | done => simp
  | read reads run => cases reads <;> simp_all [Piece.layOut_cons, Piece.token]

namespace Stream

theorem drain_events_of_pending (options : LexerOptions) (rest : List Char) (position : Nat)
    (mode : Mode) (tokens : List Token) :
    (Stream.mk options rest position mode tokens).drain.events =
      (poised options position mode rest).drain.events := by
  induction tokens with
  | nil => rfl
  | cons token tokens ih =>
      have hnext := next_of_pending (s := ⟨options, rest, position, mode, token :: tokens⟩) rfl
      rw [drain_of_some (by rw [hnext]), hnext]
      exact ih

theorem drain_events_of_reads (h : Reads mode text pieces target rest) (position : Nat) :
    (poised options position mode text).drain.events =
      (poised options position mode text).scan.2 ++
        (poised options (position + byteLength (plain pieces))
          (options.landing (plain pieces) target) rest).drain.events := by
  obtain ⟨piece, more, rfl⟩ := List.exists_cons_of_ne_nil h.pieces_ne_nil
  rw [drain_of_some (next_of_reads h position).1, (next_of_reads h position).2,
    drain_events_of_pending, next_events_of_scan rfl]

end Stream

theorem LexerOptions.landing_ne_url (options : LexerOptions) (text : List Char) {target : Mode}
    (h : target ≠ .url) : options.landing text target ≠ .url := by
  unfold landing
  split <;> simp [h]

theorem Run.traced (h : Run options mode text chunks final rest) (hrest : rest = [])
    (position : Nat) :
    Traced mode position (layOut position chunks.flatten)
      (Stream.poised options position mode text).drain.events final
      (position + byteLength (plain chunks.flatten)) := by
  induction h generalizing position with
  | done =>
      rw [hrest, Stream.drain_of_end rfl rfl]
      exact Traced.nil _ _
  | @read mode target final text mid rest pieces chunks reads run ih =>
      have hbehind := ih hrest (position + byteLength (plain pieces))
      have hbare := reads.bareText_append position fun htarget =>
        run.head_kind_ne_variable (options.landing_ne_url _ htarget)
          (position + byteLength (plain pieces))
      rw [Stream.drain_events_of_reads reads, List.flatten_cons, Piece.layOut_append,
        Piece.plain_append, Text.byteLength_append, ← Nat.add_assoc]
      exact (reads.traced options position).append hbehind (Nat.le_add_right _ _)
        (Nat.le_add_right _ _) hbare

/-! ## A pass -/

namespace Stream

theorem eq_object_of_unmatched_newline {tail : List Char}
    (h : Rule.first? (Rule.table mode) ('\n' :: tail) = none) : mode = .object := by
  obtain ⟨w, r, heq, hne, hrun⟩ := Text.exists_isRun_cons tail Text.isBlank_newline
  have hmatch := Pattern.match?_many .blank hrun hne
  have hsize : 0 < (Match.mk w.length []).size := List.length_pos_iff.2 hne
  rw [heq] at h
  -- in the other two modes the newline is white space, for which the first rule asks
  cases mode with
  | root => exact absurd (h.symm.trans (Rule.first?_of_some rfl hmatch hsize)) nofun
  | url => exact absurd (h.symm.trans (Rule.first?_of_some rfl hmatch hsize)) nofun
  | object => rfl

theorem next_events_of_unmatched_newline {s : Stream} (hpending : s.pending = [])
    (hrest : s.rest.head? = some '\n')
    (hfirst : Rule.first? (Rule.table s.mode) s.rest = none) :
    s.next.events = [.modeChange .object .root (s.position + 1)] := by
  obtain ⟨tail, htail⟩ := List.head?_eq_some_iff.1 hrest
  have hmode : s.mode = .object := eq_object_of_unmatched_newline (htail ▸ hfirst)
  have hsize : '\n'.utf8Size = 1 := by decide
  rw [next_events_of_scan hpending, scan_eq_skip htail hfirst]
  simp [skip, advance, hmode, htail, hsize]

/-- The events of a pass account for its tokens, from root mode at the first byte to the last mode
at the end of the source; and a newline that no rule matches is a change of mode only. -/
theorem drain_traced (options : LexerOptions) (source : String) :
    let pass := (start options source).drain
    Traced .root 0 pass.tokens pass.events pass.stream.mode source.utf8ByteSize ∧
      ∀ n, let now := ((start options source).calls n).2
        now.pending = [] → now.rest.head? = some '\n' →
          Rule.first? (Rule.table now.mode) now.rest = none →
            now.next.events = [.modeChange .object .root (now.position + 1)] := by
  refine ⟨?_, fun n => next_events_of_unmatched_newline⟩
  obtain ⟨chunks, final, hrun⟩ := exists_run options .root source.toList
  obtain ⟨htokens, hstream⟩ := drain_start hrun
  have htext : plain chunks.flatten = source.toList := by simpa using hrun.text_eq.symm
  have htraced := hrun.traced rfl 0
  rw [htext, Nat.zero_add, Text.byteLength_toList, ← start_eq_poised] at htraced
  rw [htokens, hstream]
  exact htraced

end Stream

end RouteHighlight
