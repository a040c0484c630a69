import PanelBoard.Http.Body

/-!
# Readers and bytes still to come

What a reader took from the front of the bytes it keeps when more bytes arrive, and
the bytes that it left are those behind what it took; what it refused it refuses
whatever comes. Every reader of heads and bodies is built from readers of that kind.
-/

namespace PanelBoard.Http.Reader

variable {α β : Type}

theorem bind_eq_complete_iff {reader : Reader α} {next : α → Reader β} {bytes rest : List UInt8}
    {value : β} :
    (reader >>= next) bytes = .complete value rest ↔
      ∃ first middle, reader bytes = .complete first middle ∧
        next first middle = .complete value rest := by
  change andThen reader next bytes = _ ↔ _
  unfold andThen
  cases reader bytes <;> simp [and_assoc]

theorem bind_eq_broken_iff {reader : Reader α} {next : α → Reader β} {bytes : List UInt8} :
    (reader >>= next) bytes = .broken ↔
      reader bytes = .broken ∨
        ∃ first middle, reader bytes = .complete first middle ∧ next first middle = .broken := by
  change andThen reader next bytes = _ ↔ _
  unfold andThen
  cases reader bytes <;> simp [and_assoc]

theorem within_eq_complete_iff {limit : Nat} {reader : Reader α} {bytes rest : List UInt8}
    {value : α} :
    within limit reader bytes = .complete value rest ↔
      ∃ left, reader (bytes.take limit) = .complete value left ∧
        left ++ bytes.drop limit = rest := by
  unfold within
  cases reader (bytes.take limit) with
  | complete => simp [and_assoc]
  | unfinished => by_cases full : limit ≤ bytes.length <;> simp [full]
  | broken => simp

/-- A limited reader finds what the reader finds in bytes that are not too many. -/
theorem within_complete {limit : Nat} {reader : Reader α} {bytes rest : List UInt8} {value : α}
    (short : bytes.length ≤ limit) (read : reader bytes = .complete value rest) :
    within limit reader bytes = .complete value rest := by
  refine within_eq_complete_iff.mpr ⟨rest, by rwa [List.take_of_length_le short], ?_⟩
  rw [List.drop_of_length_le short, List.append_nil]

theorem spanWhere_ne_broken (accepts : UInt8 → Bool) (bytes : List UInt8) :
    spanWhere accepts bytes ≠ .broken := by
  intro read
  induction bytes with
  | nil => cases read
  | cons byte rest ih =>
      rw [spanWhere] at read
      cases later : spanWhere accepts rest with
      | complete | unfinished =>
          rw [later] at read
          split at read <;> cases read
      | broken => exact ih later

/-- A span is all of its bytes up to the first of another class, which must have come. -/
theorem spanWhere_eq_complete_iff {accepts : UInt8 → Bool} {bytes taken rest : List UInt8} :
    spanWhere accepts bytes = .complete taken rest ↔
      bytes = taken ++ rest ∧ (∀ byte ∈ taken, accepts byte = true) ∧
        ∃ stop more, rest = stop :: more ∧ accepts stop = false := by
  constructor
  · intro read
    induction bytes generalizing taken with
    | nil => cases read
    | cons byte bytes ih =>
        rw [spanWhere] at read
        split at read
        next accepted =>
          cases later : spanWhere accepts bytes with
          | complete others stopped =>
              rw [later] at read
              obtain ⟨rfl, rfl⟩ := Reading.complete.inj read
              obtain ⟨rfl, inside, stop⟩ := ih later
              exact ⟨rfl, List.forall_mem_cons.mpr ⟨accepted, inside⟩, stop⟩
          | unfinished | broken => simp [later] at read
        next refused =>
          obtain ⟨rfl, rfl⟩ := Reading.complete.inj read
          exact ⟨rfl, List.forall_mem_nil _, byte, bytes, rfl, by simpa using refused⟩
  · rintro ⟨rfl, inside, stop, more, rfl, outside⟩
    exact spanWhere_append inside outside

theorem expect_eq_complete_iff {given bytes rest : List UInt8} :
    expect given bytes = .complete () rest ↔ bytes = given ++ rest := by
  constructor
  · intro read
    induction given generalizing bytes with
    | nil =>
        cases read
        rfl
    | cons byte more ih =>
        obtain ⟨front, middle, first, later⟩ := bind_eq_complete_iff.mp read
        cases bytes with
        | nil => cases first
        | cons head bytes =>
            rw [byteWhere] at first
            split at first
            next same =>
              cases first
              rw [eq_of_beq same, ih later, List.cons_append]
            next => cases first
  · rintro rfl
    exact expect_append given rest

theorem take_eq_complete_iff {count : Nat} {bytes taken rest : List UInt8} :
    take count bytes = .complete taken rest ↔ bytes = taken ++ rest ∧ taken.length = count := by
  constructor
  · intro read
    rw [take] at read
    split at read
    next enough =>
      cases read
      exact ⟨(List.take_append_drop ..).symm, List.length_take_of_le enough⟩
    next => cases read
  · rintro ⟨rfl, rfl⟩
    exact take_append taken rest

/-! ## Fuel -/

/-- Whatever one reader decides, the other decides in the same way. -/
def Agrees (reader other : Reader α) : Prop :=
  ∀ bytes verdict, verdict ≠ .unfinished → reader bytes = verdict → other bytes = verdict

namespace Agrees

theorem refl (reader : Reader α) : Agrees reader reader :=
  fun _ _ _ read => read

theorem bind {reader other : Reader α} {next following : α → Reader β}
    (first : Agrees reader other) (second : ∀ value, Agrees (next value) (following value)) :
    Agrees (reader >>= next) (other >>= following) := by
  intro bytes verdict finished read
  cases verdict with
  | complete value rest =>
      obtain ⟨early, middle, front, back⟩ := bind_eq_complete_iff.mp read
      exact bind_eq_complete_iff.mpr ⟨early, middle, first _ _ nofun front, second early _ _ nofun back⟩
  | unfinished => exact absurd rfl finished
  | broken =>
      rcases bind_eq_broken_iff.mp read with front | ⟨early, middle, front, back⟩
      · exact bind_eq_broken_iff.mpr (.inl (first _ _ nofun front))
      · exact bind_eq_broken_iff.mpr
          (.inr ⟨early, middle, first _ _ nofun front, second early _ _ nofun back⟩)

/-- More fuel decides no head in another way. -/
theorem finalHeadWithin {fuel more : Nat} (enough : fuel ≤ more) :
    Agrees (Http.finalHeadWithin fuel) (Http.finalHeadWithin more) := by
  induction fuel generalizing more with
  | zero => exact fun _ _ finished read => absurd read.symm finished
  | succ fuel ih =>
      obtain ⟨more, rfl⟩ := Nat.exists_eq_add_one_of_ne_zero (Nat.ne_zero_of_lt enough)
      refine .bind (.refl _) fun first => ?_
      split
      · exact ih (by omega)
      · exact .refl _

/-- More fuel decides no chunks in another way. -/
theorem chunksWithin {fuel more : Nat} (enough : fuel ≤ more) (spent : Nat) :
    Agrees (Http.chunksWithin fuel spent) (Http.chunksWithin more spent) := by
  induction fuel generalizing more spent with
  | zero => exact fun _ _ finished read => absurd read.symm finished
  | succ fuel ih =>
      obtain ⟨more, rfl⟩ := Nat.exists_eq_add_one_of_ne_zero (Nat.ne_zero_of_lt enough)
      refine .bind (.refl _) fun (size, later) => ?_
      dsimp only
      split
      · exact .refl _
      · exact .bind (.refl _) fun _ => .bind (.refl _) fun _ =>
          .bind (ih (by omega) later) fun _ => .refl _

end Agrees

/-! ## Bytes still to come -/

/-- A reader takes bytes off the front, and more bytes behind them change nothing, neither
what it found nor that it refused them. -/
structure Steady (reader : Reader α) : Prop where
  takes : ∀ {bytes value rest}, reader bytes = .complete value rest → rest <:+ bytes
  grows : ∀ {bytes value rest}, reader bytes = .complete value rest → ∀ more,
    reader (bytes ++ more) = .complete value (rest ++ more)
  stays : ∀ {bytes}, reader bytes = .broken → ∀ more, reader (bytes ++ more) = .broken

/-- A reader takes at least one byte. -/
def Hungry (reader : Reader α) : Prop :=
  ∀ bytes value rest, reader bytes = .complete value rest → rest.length < bytes.length

namespace Steady

theorem pure (value : α) : Steady (Pure.pure value : Reader α) where
  takes read := by
    cases read
    exact List.suffix_rfl
  grows read more := by
    cases read
    rfl
  stays := nofun

theorem fail : Steady (Reader.fail : Reader α) where
  takes := nofun
  grows := nofun
  stays _ _ := rfl

theorem bind {reader : Reader α} {next : α → Reader β} (first : Steady reader)
    (second : ∀ value, Steady (next value)) : Steady (reader >>= next) where
  takes read := by
    obtain ⟨value, middle, front, back⟩ := bind_eq_complete_iff.mp read
    exact ((second value).takes back).trans (first.takes front)
  grows read more := by
    obtain ⟨value, middle, front, back⟩ := bind_eq_complete_iff.mp read
    exact bind_eq_complete_iff.mpr
      ⟨value, middle ++ more, first.grows front more, (second value).grows back more⟩
  stays broken more := by
    rcases bind_eq_broken_iff.mp broken with front | ⟨value, middle, front, back⟩
    · exact bind_eq_broken_iff.mpr (.inl (first.stays front more))
    · exact bind_eq_broken_iff.mpr
        (.inr ⟨value, middle ++ more, first.grows front more, (second value).stays back more⟩)

theorem ensure (holds : Bool) : Steady (Reader.ensure holds) := by
  unfold Reader.ensure
  split
  · exact .pure ()
  · exact .fail

/-- A limit that is reached is not undone by more bytes. -/
theorem within (limit : Nat) {reader : Reader α} (steady : Steady reader) :
    Steady (Reader.within limit reader) where
  takes {bytes _ _} read := by
    obtain ⟨left, front, rfl⟩ := within_eq_complete_iff.mp read
    obtain ⟨taken, cut⟩ := steady.takes front
    exact ⟨taken, by rw [← List.append_assoc, cut, List.take_append_drop]⟩
  grows {bytes _ _} read more := by
    obtain ⟨left, front, rfl⟩ := within_eq_complete_iff.mp read
    refine within_eq_complete_iff.mpr ⟨left ++ more.take (limit - bytes.length), ?_, ?_⟩
    · rw [List.take_append]
      exact steady.grows front _
    · rw [List.drop_append]
      rcases Nat.le_total limit bytes.length with full | short
      · simp [Nat.sub_eq_zero_of_le full]
      · simp [List.drop_of_length_le short]
  stays {bytes} broken more := by
    unfold Reader.within at broken ⊢
    cases front : reader (bytes.take limit) with
    | complete value rest => simp [front] at broken
    | unfinished =>
        have full : limit ≤ bytes.length := by simpa [front] using broken
        have longer : limit ≤ (bytes ++ more).length := by
          rw [List.length_append]
          omega
        rw [List.take_append_of_le_length full, front]
        simp only [longer, if_true]
    | broken => rw [List.take_append, steady.stays front]

theorem byteWhere (accepts : UInt8 → Bool) : Steady (Http.byteWhere accepts) where
  takes {bytes _ _} read := by
    cases bytes with
    | nil => cases read
    | cons byte rest =>
        simp only [Http.byteWhere] at read
        split at read
        · cases read
          exact List.suffix_cons ..
        · cases read
  grows {bytes _ _} read more := by
    cases bytes with
    | nil => cases read
    | cons byte rest =>
        simp only [Http.byteWhere, List.cons_append] at read ⊢
        split at read <;> simp_all
  stays {bytes} broken more := by
    cases bytes with
    | nil => cases broken
    | cons byte rest =>
        simp only [Http.byteWhere, List.cons_append] at broken ⊢
        split at broken <;> simp_all

theorem spanWhere (accepts : UInt8 → Bool) : Steady (Http.spanWhere accepts) where
  takes read := by
    obtain ⟨rfl, -, -⟩ := spanWhere_eq_complete_iff.mp read
    exact List.suffix_append ..
  grows read more := by
    obtain ⟨rfl, inside, stop, others, rfl, outside⟩ := spanWhere_eq_complete_iff.mp read
    rw [List.append_assoc]
    exact spanWhere_append inside outside
  stays broken := (spanWhere_ne_broken _ _ broken).elim

theorem take (count : Nat) : Steady (Http.take count) where
  takes read := by
    obtain ⟨rfl, -⟩ := take_eq_complete_iff.mp read
    exact List.suffix_append ..
  grows read more := by
    obtain ⟨rfl, rfl⟩ := take_eq_complete_iff.mp read
    rw [List.append_assoc]
    exact take_append ..
  stays broken := by
    rw [Http.take] at broken
    split at broken <;> cases broken

theorem expect (given : List UInt8) : Steady (Http.expect given) := by
  induction given with
  | nil => exact .pure ()
  | cons byte more ih => exact .bind (.byteWhere _) fun _ => ih

theorem lineEnd : Steady Http.lineEnd := by
  refine .bind (.byteWhere _) fun byte => ?_
  split
  · exact .expect _
  · exact .pure ()

/-- A reader with fuel for every byte is steady if more fuel decides nothing in another way. -/
theorem of_fuel {read : Nat → Reader α} (steady : ∀ fuel, Steady (read fuel))
    (agrees : ∀ {fuel more}, fuel ≤ more → Agrees (read fuel) (read more)) :
    Steady (fun bytes => read (bytes.length + 1) bytes : Reader α) where
  takes found := (steady _).takes found
  grows found more := agrees (by simp) _ _ nofun ((steady _).grows found more)
  stays broken more := agrees (by simp) _ _ nofun ((steady _).stays broken more)

/-! ## Heads -/

theorem field : Steady Http.field :=
  .bind (.byteWhere _) fun _ => .bind (.spanWhere _) fun _ => .bind (.expect _) fun _ =>
    .bind (.spanWhere _) fun _ => .bind (.spanWhere _) fun _ => .bind .lineEnd fun _ => .pure _

/-- A reader that looks at the next byte before it goes on is steady if it goes on so. -/
theorem of_cons {reader : Reader α} (none : reader [] = .unfinished)
    (front : ∀ byte, ∃ next : Reader α, Steady next ∧ ∀ rest,
      reader (byte :: rest) = next (byte :: rest)) : Steady reader where
  takes {bytes _ _} read := by
    cases bytes with
    | nil => rw [none] at read; cases read
    | cons byte rest =>
        obtain ⟨next, steady, same⟩ := front byte
        rw [same] at read
        exact steady.takes read
  grows {bytes _ _} read more := by
    cases bytes with
    | nil => rw [none] at read; cases read
    | cons byte rest =>
        obtain ⟨next, steady, same⟩ := front byte
        rw [same] at read
        rw [List.cons_append, same]
        exact steady.grows read more
  stays {bytes} broken more := by
    cases bytes with
    | nil => rw [none] at broken; cases broken
    | cons byte rest =>
        obtain ⟨next, steady, same⟩ := front byte
        rw [same] at broken
        rw [List.cons_append, same]
        exact steady.stays broken more

theorem fieldsUpTo (limit : Nat) : Steady (Http.fieldsUpTo limit) := by
  have ends : Steady (do Http.lineEnd; return [] : Reader (List Field)) :=
    .bind .lineEnd fun _ => .pure _
  induction limit with
  | zero => exact ends
  | succ limit ih =>
      refine .of_cons rfl fun byte => ?_
      by_cases stops : (byte == carriageReturn || byte == lineFeed) = true
      · exact ⟨_, ends, fun rest => by rw [Http.fieldsUpTo, if_pos stops]⟩
      · exact ⟨_, .bind .field fun _ => .bind ih fun _ => .pure _,
          fun rest => by rw [Http.fieldsUpTo, if_neg stops]⟩

theorem skipEmptyLines : Steady Http.skipEmptyLines where
  takes {bytes _ _} read := by
    fun_induction Http.skipEmptyLines bytes with
    | case1 => cases read
    | case2 => cases read
    | case3 => cases read; exact List.suffix_rfl
    | case4 byte next rest _ ih => exact (ih read).trans (List.suffix_cons ..)
    | case5 byte next rest _ _ _ ih =>
        exact (ih read).trans ((List.suffix_cons ..).trans (List.suffix_cons ..))
    | case6 => cases read
    | case7 => cases read; exact List.suffix_rfl
  grows {bytes _ _} read more := by
    fun_induction Http.skipEmptyLines bytes with
    | case1 => cases read
    | case2 => cases read
    | case3 byte stays =>
        cases read
        cases more with
        | nil => simp [Http.skipEmptyLines, stays]
        | cons next more => simp_all [Http.skipEmptyLines]
    | case4 byte next rest isFeed ih =>
        simp only [List.cons_append, Http.skipEmptyLines, isFeed] at ih ⊢
        exact ih read
    | case5 byte next rest other isReturn isFeed ih =>
        simp only [List.cons_append, Http.skipEmptyLines, isReturn, isFeed, other, if_true] at ih ⊢
        exact ih read
    | case6 => cases read
    | case7 byte next rest other plain =>
        cases read
        simp [Http.skipEmptyLines, other, plain]
  stays {bytes} broken more := by
    fun_induction Http.skipEmptyLines bytes with
    | case1 => cases broken
    | case2 => cases broken
    | case3 => cases broken
    | case4 byte next rest isFeed ih =>
        simp only [List.cons_append, Http.skipEmptyLines, isFeed] at ih ⊢
        exact ih broken
    | case5 byte next rest other isReturn isFeed ih =>
        simp only [List.cons_append, Http.skipEmptyLines, isReturn, isFeed, other, if_true] at ih ⊢
        exact ih broken
    | case6 byte next rest other isReturn alone =>
        simp [Http.skipEmptyLines, other, isReturn, alone]
    | case7 => cases broken

theorem version : Steady Http.version :=
  .bind (.expect _) fun _ => .bind (.byteWhere _) fun _ => .pure _

theorem statusCode : Steady Http.statusCode :=
  .bind (.byteWhere _) fun _ => .bind (.byteWhere _) fun _ => .bind (.byteWhere _) fun _ => .pure _

/-- Passing over a byte that is there. -/
theorem skip_cons {next : Reader α} {byte : UInt8} (rest : List UInt8) :
    (do let _ ← Http.byteWhere (· == byte); next : Reader α) (byte :: rest) = next rest := by
  have passed : Http.byteWhere (· == byte) (byte :: rest) = .complete byte rest := by
    simp [Http.byteWhere]
  rw [bind_complete passed]

theorem reason : Steady Http.reason := by
  refine .of_cons rfl fun byte => ?_
  by_cases space : (byte == 0x20) = true
  · refine ⟨do let _ ← Http.byteWhere (· == byte); let _ ← Http.spanWhere isValueByte; Http.lineEnd,
      .bind (.byteWhere _) fun _ => .bind (.spanWhere _) fun _ => .lineEnd, fun rest => ?_⟩
    rw [skip_cons, Http.reason, if_pos space]
  · exact ⟨_, .lineEnd, fun rest => by rw [Http.reason, if_neg space]⟩

theorem headLines : Steady Http.headLines :=
  .bind .skipEmptyLines fun _ => .bind .version fun _ => .bind (.expect _) fun _ =>
    .bind .statusCode fun _ => .bind .reason fun _ => .bind (.fieldsUpTo _) fun _ =>
      .bind (.ensure _) fun _ => .pure _

theorem head : Steady Http.head :=
  headLines.within maxHeadLength

theorem finalHead : Steady Http.finalHead := by
  refine of_fuel (fun fuel => ?_) Agrees.finalHeadWithin
  induction fuel with
  | zero => exact ⟨nofun, nofun, nofun⟩
  | succ fuel ih =>
      refine .bind .head fun first => ?_
      split
      · exact ih
      · exact .pure first

/-! ## Chunks -/

theorem moreSizeDigits (value : Nat) : Steady (Http.moreSizeDigits value) where
  takes {bytes _ _} read := by
    fun_induction Http.moreSizeDigits value bytes with
    | case1 => cases read
    | case2 => cases read; exact List.suffix_rfl
    | case3 _ byte rest _ _ _ ih => exact (ih read).trans (List.suffix_cons ..)
    | case4 => cases read
  grows {bytes _ _} read more := by
    fun_induction Http.moreSizeDigits value bytes with
    | case1 => cases read
    | case2 value byte rest none =>
        cases read
        simp [Http.moreSizeDigits, none]
    | case3 value byte rest digit found small ih =>
        simp only [List.cons_append, Http.moreSizeDigits, found, small, if_true]
        exact ih read
    | case4 => cases read
  stays {bytes} broken more := by
    fun_induction Http.moreSizeDigits value bytes with
    | case1 => cases broken
    | case2 => cases broken
    | case3 value byte rest digit found small ih =>
        simp only [List.cons_append, Http.moreSizeDigits, found, small, if_true]
        exact ih broken
    | case4 value byte rest digit found large =>
        simp [Http.moreSizeDigits, found, large]

theorem extensionBytes (spent : Nat) : Steady (Http.extensionBytes spent) where
  takes {bytes _ _} read := by
    fun_induction Http.extensionBytes spent bytes with
    | case1 => cases read
    | case2 => cases read; exact List.suffix_rfl
    | case3 => cases read
    | case4 _ byte rest _ _ _ ih => exact (ih read).trans (List.suffix_cons ..)
    | case5 => cases read
  grows {bytes _ _} read more := by
    fun_induction Http.extensionBytes spent bytes with
    | case1 => cases read
    | case2 spent byte rest ends =>
        cases read
        simp [Http.extensionBytes, ends]
    | case3 => cases read
    | case4 spent byte rest inside other few ih =>
        simp only [List.cons_append, Http.extensionBytes, inside, other, few, if_true]
        exact ih read
    | case5 => cases read
  stays {bytes} broken more := by
    fun_induction Http.extensionBytes spent bytes with
    | case1 => cases broken
    | case2 => cases broken
    | case3 spent byte rest inside isFeed => simp [Http.extensionBytes, inside, isFeed]
    | case4 spent byte rest inside other few ih =>
        simp only [List.cons_append, Http.extensionBytes, inside, other, few, if_true]
        exact ih broken
    | case5 spent byte rest inside other many =>
        simp [Http.extensionBytes, inside, other, many]

theorem extension (spent : Nat) : Steady (Http.extension spent) := by
  refine .of_cons rfl fun byte => ?_
  by_cases semicolon : (byte == 0x3B) = true
  · refine ⟨do let _ ← Http.byteWhere (· == byte); Http.extensionBytes spent,
      .bind (.byteWhere _) fun _ => .extensionBytes spent, fun rest => ?_⟩
    rw [skip_cons, Http.extension, if_pos semicolon]
  · exact ⟨_, .pure spent, fun rest => by rw [Http.extension, if_neg semicolon]; rfl⟩

theorem sizeLine (spent : Nat) : Steady (Http.sizeLine spent) :=
  .bind (.byteWhere _) fun _ => .bind (.moreSizeDigits _) fun _ => .bind (.spanWhere _) fun _ =>
    .bind (.extension _) fun _ => .bind (.expect _) fun _ => .pure _

theorem trailerLine : Steady Http.trailerLine :=
  .bind (.spanWhere _) fun _ => .bind (.expect _) fun _ => .pure _

theorem trailerLines (limit : Nat) : Steady (Http.trailerLines limit) := by
  have ends : Steady (do Http.expect lineBreak; return [] : Reader (List (List UInt8))) :=
    .bind (.expect _) fun _ => .pure _
  induction limit with
  | zero =>
      refine .of_cons rfl fun byte => ?_
      by_cases stops : (byte == carriageReturn) = true
      · exact ⟨_, ends, fun rest => by rw [Http.trailerLines, if_pos stops]⟩
      · exact ⟨_, .bind .trailerLine fun _ => .fail,
          fun rest => by rw [Http.trailerLines, if_neg stops]⟩
  | succ limit ih =>
      refine .of_cons rfl fun byte => ?_
      by_cases stops : (byte == carriageReturn) = true
      · exact ⟨_, ends, fun rest => by rw [Http.trailerLines, if_pos stops]⟩
      · exact ⟨_, .bind .trailerLine fun _ => .bind ih fun _ => .pure _,
          fun rest => by rw [Http.trailerLines, if_neg stops]⟩

theorem trailers : Steady Http.trailers := by
  refine .of_cons rfl fun byte => ?_
  by_cases stops : (byte == carriageReturn) = true
  · exact ⟨_, .expect lineBreak, fun rest => by rw [Http.trailers, if_pos stops]⟩
  · exact ⟨_, .bind ((trailerLines _).within _) fun _ => .ensure _,
      fun rest => by rw [Http.trailers, if_neg stops]⟩

theorem chunksWithin (fuel spent : Nat) : Steady (Http.chunksWithin fuel spent) := by
  induction fuel generalizing spent with
  | zero => exact ⟨nofun, nofun, nofun⟩
  | succ fuel ih =>
      refine .bind (.sizeLine spent) fun (size, later) => ?_
      dsimp only
      split
      · exact .bind .trailers fun _ => .pure _
      · exact .bind (.take size) fun _ => .bind (.expect _) fun _ => .bind (ih later) fun _ =>
          .pure _

theorem chunks : Steady Http.chunks :=
  of_fuel (fun fuel => chunksWithin fuel 0) fun enough => Agrees.chunksWithin enough 0

end Steady

/-! ## Readers that take something -/

namespace Hungry

theorem byteWhere (accepts : UInt8 → Bool) : Hungry (Http.byteWhere accepts) := by
  intro bytes value rest read
  cases bytes with
  | nil => cases read
  | cons byte more =>
      rw [Http.byteWhere] at read
      split at read
      · cases read
        exact Nat.lt_succ_self _
      · cases read

theorem bind {reader : Reader α} {next : α → Reader β} (first : Hungry reader)
    (second : ∀ value, Steady (next value)) : Hungry (reader >>= next) := by
  intro bytes value rest read
  obtain ⟨front, middle, taken, left⟩ := bind_eq_complete_iff.mp read
  exact Nat.lt_of_le_of_lt ((second front).takes left).length_le (first _ _ _ taken)

theorem behind {reader : Reader α} {next : α → Reader β} (first : Steady reader)
    (second : ∀ value, Hungry (next value)) : Hungry (reader >>= next) := by
  intro bytes value rest read
  obtain ⟨front, middle, taken, left⟩ := bind_eq_complete_iff.mp read
  exact Nat.lt_of_lt_of_le (second front _ _ _ left) (first.takes taken).length_le

theorem expect (byte : UInt8) (more : List UInt8) : Hungry (Http.expect (byte :: more)) :=
  bind (byteWhere _) fun _ => .expect more

theorem within (limit : Nat) {reader : Reader α} (hungry : Hungry reader) :
    Hungry (Reader.within limit reader) := by
  intro bytes value rest read
  obtain ⟨left, front, rfl⟩ := within_eq_complete_iff.mp read
  have shorter := hungry _ _ _ front
  simp only [List.length_append, List.length_take, List.length_drop] at shorter ⊢
  omega

theorem head : Hungry Http.head := by
  have protocol : Hungry Http.version :=
    bind (expect 0x48 (ascii "TTP/1.")) fun _ => .bind (.byteWhere _) fun _ => .pure _
  have lines : Hungry Http.headLines :=
    behind .skipEmptyLines fun _ => bind protocol fun _ => .bind (.expect _) fun _ =>
      .bind .statusCode fun _ => .bind .reason fun _ => .bind (.fieldsUpTo _) fun _ =>
        .bind (.ensure _) fun _ => .pure _
  exact lines.within maxHeadLength

theorem sizeLine (spent : Nat) : Hungry (Http.sizeLine spent) :=
  bind (byteWhere _) fun _ => .bind (.moreSizeDigits _) fun _ => .bind (.spanWhere _) fun _ =>
    .bind (.extension _) fun _ => .bind (.expect _) fun _ => .pure _

end Hungry

end PanelBoard.Http.Reader
