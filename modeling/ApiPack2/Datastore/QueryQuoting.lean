import ApiPack2.Datastore.InLists
import Mathlib.Data.Bool.AllAny

/-!
# Dates in the command of a query

The texts of the dates are put between quotes as they are. Read with the quoting rules of SQL,
the command keeps its shape exactly for the texts in which every quote is doubled.
-/

namespace ApiPack2

open Quoting

/-- What stands before the first literal of a query by stations and dates. -/
def commandHead (threadId : String) : List Char :=
  ("DECLARE cursor_" ++ toString Topic.metamorphosisScheduleDay.number ++ "_" ++ threadId ++
    " BINARY CURSOR for select thrift from catapult.schedule_day where(day AT TIME ZONE ").toList

/-- What stands after the last literal of a query by stations and dates. -/
def commandEnd (stationIdArray : IdArray) : List Char :=
  (generateLongIdList stationIdArray " ) and station in (" ++ " ) order by station,day ").toList

/-- The tokens that a query by stations and dates is meant to have: the dates are its second and
fourth literal. -/
def meantTokens (threadId dateFrom dateTo : String) (stationIdArray : IdArray) : List Token :=
  (commandHead threadId).map .char ++ .literal "UTC".toList ::
    ("  >=".toList.map .char ++ .literal dateFrom.toList ::
      (" and day  AT TIME ZONE ".toList.map .char ++ .literal "UTC".toList ::
        ("<=".toList.map .char ++ .literal dateTo.toList ::
          (commandEnd stationIdArray).map .char)))

/-- The tokens of a query by stations and dates. -/
def commandTokens (threadId dateFrom dateTo : String) (stationIdArray : IdArray) : List Token :=
  lex ((Query.texts dateFrom dateTo stationIdArray).command threadId).toList

/-- The dates occur in the two date literals of one statement, and nowhere else. -/
structure DatesQuoted (threadId dateFrom dateTo : String) (stationIdArray : IdArray) : Prop where
  /-- The dates are the contents of their literals. -/
  tokens : commandTokens threadId dateFrom dateTo stationIdArray =
    meantTokens threadId dateFrom dateTo stationIdArray
  /-- No statement ends within the command. -/
  statement : .char ';' ∉ commandTokens threadId dateFrom dateTo stationIdArray

/-- Outside of literals the command is that of a query without dates. -/
def SameShape (threadId dateFrom dateTo : String) (stationIdArray : IdArray) : Prop :=
  (commandTokens threadId dateFrom dateTo stationIdArray).map Token.shape =
    (commandTokens threadId "" "" stationIdArray).map Token.shape

/-- The command of a query by stations and dates, taken apart at its quotes. -/
theorem toList_command (threadId dateFrom dateTo : String) (stationIdArray : IdArray) :
    ((Query.texts dateFrom dateTo stationIdArray).command threadId).toList =
      commandHead threadId ++ quote :: ("UTC".toList ++ quote :: ("  >=".toList ++ quote ::
        (dateFrom.toList ++ quote :: (" and day  AT TIME ZONE ".toList ++ quote ::
          ("UTC".toList ++ quote :: ("<=".toList ++ quote :: (dateTo.toList ++ quote ::
            commandEnd stationIdArray))))))) := by
  have opening :
    " BINARY CURSOR for select thrift from catapult.schedule_day where(day AT TIME ZONE 'UTC'  >='"
      = " BINARY CURSOR for select thrift from catapult.schedule_day where(day AT TIME ZONE " ++
        "'" ++ "UTC" ++ "'" ++ "  >=" ++ "'" := rfl
  have between : "' and day  AT TIME ZONE 'UTC'<='" =
      "'" ++ " and day  AT TIME ZONE " ++ "'" ++ "UTC" ++ "'" ++ "<=" ++ "'" := rfl
  have closing : "' ) and station in (" = "'" ++ " ) and station in (" := rfl
  have quoteText : "'".toList = [quote] := rfl
  simp only [Query.command, commandHead, commandEnd, toList_generateLongIdList, opening, between,
    closing, String.toList_append, quoteText, List.append_assoc, List.cons_append,
    List.nil_append]

/-- The list of stations and what follows it has no quote, no semicolon and no capital letter. -/
theorem commandEnd_plain (stationIdArray : IdArray) {char : Char}
    (member : char ∈ commandEnd stationIdArray) :
    char ≠ quote ∧ char ≠ ';' ∧ char ≠ 'U' := by
  have before : ∀ char ∈ " ) and station in (".toList,
      char ≠ quote ∧ char ≠ ';' ∧ char ≠ 'U' :=
    List.all_iff_forall_prop.mp (by decide)
  have after : ∀ char ∈ " ) order by station,day ".toList,
      char ≠ quote ∧ char ≠ ';' ∧ char ≠ 'U' :=
    List.all_iff_forall_prop.mp (by decide)
  rw [commandEnd, String.toList_append, toList_generateLongIdList, List.mem_append,
    List.mem_append] at member
  rcases member with (first | listed) | last
  · exact before char first
  · rcases mem_intercalate listed with rfl | ⟨part, isPart, inside⟩
    · decide
    · obtain ⟨id, -, rfl⟩ := List.mem_map.mp isPart
      have digit := bareId_digit inside
      refine ⟨?_, ?_, ?_⟩ <;> rintro rfl <;> exact absurd digit (by decide)
  · exact after char last

/-- What stands before the first literal has no quote and no semicolon, as the id of the thread
has none. -/
theorem commandHead_plain {threadId : String}
    (plainId : ∀ char ∈ threadId.toList, char ≠ quote ∧ char ≠ ';') {char : Char}
    (member : char ∈ commandHead threadId) : char ≠ quote ∧ char ≠ ';' := by
  have before : ∀ char ∈ "DECLARE cursor_".toList, char ≠ quote ∧ char ≠ ';' :=
    List.all_iff_forall_prop.mp (by decide)
  have number : ∀ char ∈ (toString Topic.metamorphosisScheduleDay.number).toList,
      char ≠ quote ∧ char ≠ ';' :=
    List.all_iff_forall_prop.mp (by decide)
  have between : ∀ char ∈ "_".toList, char ≠ quote ∧ char ≠ ';' :=
    List.all_iff_forall_prop.mp (by decide)
  have after : ∀ char ∈
      " BINARY CURSOR for select thrift from catapult.schedule_day where(day AT TIME ZONE ".toList,
      char ≠ quote ∧ char ≠ ';' :=
    List.all_iff_forall_prop.mp (by decide)
  simp only [commandHead, String.toList_append, List.mem_append] at member
  rcases member with (((first | digit) | separator) | inId) | last
  · exact before char first
  · exact number char digit
  · exact between char separator
  · exact plainId char inId
  · exact after char last

variable {threadId dateFrom dateTo : String} {stationIdArray : IdArray}

/-- What follows the first date in the command. -/
def afterFrom (dateTo : String) (stationIdArray : IdArray) : List Char :=
  " and day  AT TIME ZONE ".toList ++ quote :: ("UTC".toList ++ quote :: ("<=".toList ++ quote ::
    (dateTo.toList ++ quote :: commandEnd stationIdArray)))

/-- No quote follows the quote after the first date. -/
theorem afterFrom_ends (dateTo : String) (stationIdArray : IdArray) :
    (afterFrom dateTo stationIdArray).head? ≠ some quote := by
  change some ' ' ≠ some quote
  decide

/-- There is no quote in what follows the second date. -/
theorem quote_not_mem_commandEnd (stationIdArray : IdArray) : quote ∉ commandEnd stationIdArray :=
  fun member => (commandEnd_plain stationIdArray member).1 rfl

/-- No quote follows the quote after the second date. -/
theorem commandEnd_ends (stationIdArray : IdArray) :
    (commandEnd stationIdArray).head? ≠ some quote := fun first =>
  quote_not_mem_commandEnd stationIdArray (List.mem_of_head? first)

/-- What follows the second date stands for itself. -/
theorem lexFrom_commandEnd (stationIdArray : IdArray) :
    lexFrom .outside (commandEnd stationIdArray) = (commandEnd stationIdArray).map .char := by
  rw [lexFrom, scan_outside (quote_not_mem_commandEnd stationIdArray), finish, List.append_nil]

/-- The text between the first literal and the first date, read up to any date. -/
theorem lexFrom_head {head : List Char} (unquoted : quote ∉ head) (rest : List Char) :
    lexFrom .outside (head ++ quote :: ("UTC".toList ++ quote :: ("  >=".toList ++ quote ::
        rest))) =
      head.map .char ++ .literal "UTC".toList :: ("  >=".toList.map .char ++
        lexFrom (.inside []) rest) := by
  have afterZone (rest : List Char) : ("  >=".toList ++ rest).head? ≠ some quote := by
    change some ' ' ≠ some quote
    decide
  have zone : doubled "UTC".toList = true := rfl
  have before : quote ∉ "  >=".toList := by decide +kernel
  rw [lexFrom_plain unquoted, lexFrom_literal zone (afterZone _), lexFrom_plain before,
    lexFrom_opening]

/-- The text between the dates, read up to any date. -/
theorem lexFrom_between (rest : List Char) :
    lexFrom .outside (" and day  AT TIME ZONE ".toList ++ quote :: ("UTC".toList ++ quote ::
        ("<=".toList ++ quote :: rest))) =
      " and day  AT TIME ZONE ".toList.map .char ++ .literal "UTC".toList ::
        ("<=".toList.map .char ++ lexFrom (.inside []) rest) := by
  have afterZone (rest : List Char) : ("<=".toList ++ rest).head? ≠ some quote := by
    change some '<' ≠ some quote
    decide
  have zone : doubled "UTC".toList = true := rfl
  have first : quote ∉ " and day  AT TIME ZONE ".toList := by decide +kernel
  have before : quote ∉ "<=".toList := by decide +kernel
  rw [lexFrom_plain first, lexFrom_literal zone (afterZone _), lexFrom_plain before,
    lexFrom_opening]

/-- The tokens up to the first date are the same for all dates. -/
theorem commandTokens_eq (plainId : ∀ char ∈ threadId.toList, char ≠ quote ∧ char ≠ ';')
    (dateFrom dateTo : String) (stationIdArray : IdArray) :
    commandTokens threadId dateFrom dateTo stationIdArray =
      (commandHead threadId).map .char ++ .literal "UTC".toList :: ("  >=".toList.map .char ++
        lexFrom (.inside []) (dateFrom.toList ++ quote :: afterFrom dateTo stationIdArray)) := by
  have head : quote ∉ commandHead threadId := fun member => (commandHead_plain plainId member).1 rfl
  rw [commandTokens, toList_command]
  exact lexFrom_head head _

/-- The tokens between the dates are the same for all dates. -/
theorem lexFrom_afterFrom (dateTo : String) (stationIdArray : IdArray) :
    lexFrom .outside (afterFrom dateTo stationIdArray) =
      " and day  AT TIME ZONE ".toList.map .char ++ .literal "UTC".toList ::
        ("<=".toList.map .char ++
          lexFrom (.inside []) (dateTo.toList ++ quote :: commandEnd stationIdArray)) :=
  lexFrom_between _

/-- A date whose quotes are doubled is the content of its literal. -/
theorem lexFrom_date {date rest : List Char} (paired : doubled date = true)
    (ends : rest.head? ≠ some quote) :
    lexFrom (.inside []) (date ++ quote :: rest) = .literal date :: lexFrom .outside rest :=
  lexFrom_literal paired ends

/-- Dates whose quotes are doubled are the contents of their literals. -/
theorem commandTokens_of_doubled (plainId : ∀ char ∈ threadId.toList, char ≠ quote ∧ char ≠ ';')
    (paired : doubled dateFrom.toList = true ∧ doubled dateTo.toList = true) :
    commandTokens threadId dateFrom dateTo stationIdArray =
      meantTokens threadId dateFrom dateTo stationIdArray := by
  rw [commandTokens_eq plainId, lexFrom_date paired.1 (afterFrom_ends _ _), lexFrom_afterFrom,
    lexFrom_date paired.2 (commandEnd_ends _), lexFrom_commandEnd, meantTokens]

/-- Dates that are the contents of their literals have their quotes doubled. -/
theorem doubled_of_datesQuoted (quoted : DatesQuoted threadId dateFrom dateTo stationIdArray) :
    doubled dateFrom.toList = true ∧ doubled dateTo.toList = true := by
  have first :
      .literal dateFrom.toList ∈ commandTokens threadId dateFrom dateTo stationIdArray := by
    rw [quoted.tokens]
    simp [meantTokens]
  have second : .literal dateTo.toList ∈ commandTokens threadId dateFrom dateTo stationIdArray := by
    rw [quoted.tokens]
    simp [meantTokens]
  exact ⟨doubled_of_literal first, doubled_of_literal second⟩

/-- The tokens that a query is meant to have make up one statement. -/
theorem meantTokens_statement (plainId : ∀ char ∈ threadId.toList, char ≠ quote ∧ char ≠ ';') :
    .char ';' ∉ meantTokens threadId dateFrom dateTo stationIdArray := by
  have head : ';' ∉ commandHead threadId := fun member => (commandHead_plain plainId member).2 rfl
  have last : ';' ∉ commandEnd stationIdArray := fun member =>
    (commandEnd_plain stationIdArray member).2.1 rfl
  simp [meantTokens, head, last]

/-! ### The shape of the command -/

/-- The shape of what follows the start of the literal for the first date. -/
def restShape (dateFrom dateTo : String) (stationIdArray : IdArray) : List Token :=
  (lexFrom (.inside []) (dateFrom.toList ++ quote :: afterFrom dateTo stationIdArray)).map
    Token.shape

/-- Queries have the same shape exactly if they have it from the first date on. -/
theorem sameShape_iff (plainId : ∀ char ∈ threadId.toList, char ≠ quote ∧ char ≠ ';') :
    SameShape threadId dateFrom dateTo stationIdArray ↔
      restShape dateFrom dateTo stationIdArray = restShape "" "" stationIdArray := by
  rw [SameShape, commandTokens_eq plainId, commandTokens_eq plainId]
  simp [restShape]

/-- The shape of a query whose dates are the contents of their literals. -/
theorem restShape_of_doubled (paired : doubled dateFrom.toList = true ∧
    doubled dateTo.toList = true) :
    restShape dateFrom dateTo stationIdArray =
      .literal [] :: (" and day  AT TIME ZONE ".toList.map .char ++ .literal [] ::
        ("<=".toList.map .char ++ .literal [] :: (commandEnd stationIdArray).map .char)) := by
  rw [restShape, lexFrom_date paired.1 (afterFrom_ends _ _), lexFrom_afterFrom,
    lexFrom_date paired.2 (commandEnd_ends _), lexFrom_commandEnd]
  simp [Token.shape, Function.comp_def]

/-- After a first date that ends its literal early, the name of the time zone stands outside of
literals. -/
theorem char_mem_of_spilled (content rest : List Char) :
    .char 'U' ∈ lexFrom (.inside content)
      (" and day  AT TIME ZONE ".toList ++ quote :: ("UTC".toList ++ rest)) := by
  have afterZone (rest : List Char) : ("UTC".toList ++ rest).head? ≠ some quote := by
    change some 'U' ≠ some quote
    decide
  have first : doubled " and day  AT TIME ZONE ".toList = true :=
    doubled_of_plain (by decide +kernel)
  have zone : quote ∉ "UTC".toList := by decide +kernel
  have letter : Token.char 'U' ∈ "UTC".toList.map Token.char := by decide +kernel
  rw [lexFrom_append, scan_inside _ first, lexFrom_closing _ (afterZone _), lexFrom_plain zone]
  exact List.mem_cons_of_mem _ (List.mem_append_left _ letter)

/-- Dates with which the command keeps its shape have their quotes doubled. -/
theorem doubled_of_restShape (same : restShape dateFrom dateTo stationIdArray =
    restShape "" "" stationIdArray) :
    doubled dateFrom.toList = true ∧ doubled dateTo.toList = true := by
  have empty : doubled "".toList = true := rfl
  rw [restShape_of_doubled ⟨empty, empty⟩] at same
  rcases lexFrom_hole dateFrom.toList (afterFrom_ends dateTo stationIdArray) with
    ⟨content, ended, tokens⟩ | ⟨content, tokens⟩
  · rcases lexFrom_hole dateTo.toList (commandEnd_ends stationIdArray) with
      ⟨later, endedTo, tokensTo⟩ | ⟨later, tokensTo⟩
    · -- no token may come before the literals of the dates
      rw [restShape, tokens, lexFrom_afterFrom, tokensTo, lexFrom_commandEnd] at same
      have lengths := congrArg List.length same
      simp only [List.length_map, List.length_append, List.length_cons] at lengths
      have none : (scan (.inside []) dateFrom.toList).1 = [] := by
        apply List.eq_nil_of_length_eq_zero
        omega
      have noneTo : (scan (.inside []) dateTo.toList).1 = [] := by
        apply List.eq_nil_of_length_eq_zero
        omega
      exact ⟨doubled_of_scan (Prod.ext none ended), doubled_of_scan (Prod.ext noneTo endedTo)⟩
    · -- the literal that the quote after the second date starts is not closed
      rw [restShape, tokens, lexFrom_afterFrom, tokensTo,
        lexFrom_unclosed later (quote_not_mem_commandEnd stationIdArray)] at same
      have unclosed : Token.unclosed [] ∈ (.literal [] ::
          (" and day  AT TIME ZONE ".toList.map Token.char ++ .literal [] ::
            ("<=".toList.map Token.char ++ .literal [] ::
              (commandEnd stationIdArray).map Token.char)) : List Token) := by
        rw [← same]
        simp [Token.shape]
      simp at unclosed
  · have outside : Token.char 'U' ∈ restShape dateFrom dateTo stationIdArray := by
      rw [restShape, tokens]
      have spilled : .char 'U' ∈ lexFrom (.inside content) (afterFrom dateTo stationIdArray) :=
        char_mem_of_spilled content _
      exact List.mem_map.mpr ⟨.char 'U', List.mem_append_right _ spilled, rfl⟩
    rw [same] at outside
    have absent : 'U' ∉ commandEnd stationIdArray := fun member =>
      (commandEnd_plain stationIdArray member).2.2 rfl
    simp [absent] at outside

/-- For all texts and stations: the dates stay in their literals of one statement exactly if all
their quotes are doubled, and so does the command keep its shape. -/
theorem dates_quoted_iff (plainId : ∀ char ∈ threadId.toList, char ≠ quote ∧ char ≠ ';')
    (dateFrom dateTo : String) (stationIdArray : IdArray) :
    (DatesQuoted threadId dateFrom dateTo stationIdArray ↔
        doubled dateFrom.toList = true ∧ doubled dateTo.toList = true) ∧
      (SameShape threadId dateFrom dateTo stationIdArray ↔
        doubled dateFrom.toList = true ∧ doubled dateTo.toList = true) := by
  constructor
  · refine ⟨doubled_of_datesQuoted, fun paired => ?_⟩
    have tokens : commandTokens threadId dateFrom dateTo stationIdArray =
        meantTokens threadId dateFrom dateTo stationIdArray :=
      commandTokens_of_doubled plainId paired
    refine ⟨tokens, ?_⟩
    rw [tokens]
    exact meantTokens_statement plainId
  · have empty : doubled "".toList = true := rfl
    rw [sameShape_iff plainId]
    refine ⟨doubled_of_restShape, fun paired => ?_⟩
    rw [restShape_of_doubled paired, restShape_of_doubled ⟨empty, empty⟩]

/-- Two dates as they are meant to be stay in their literals. -/
theorem dates_quoted_iff_day :
    DatesQuoted "7" "2016-05-08" "2016-05-09" [10003] ∧
      SameShape "7" "2016-05-08" "2016-05-09" [10003] := by
  have plainId : ∀ char ∈ "7".toList, char ≠ quote ∧ char ≠ ';' :=
    List.all_iff_forall_prop.mp (by decide)
  have paired : doubled "2016-05-08".toList = true ∧ doubled "2016-05-09".toList = true :=
    ⟨rfl, rfl⟩
  have both := dates_quoted_iff plainId "2016-05-08" "2016-05-09" [10003]
  exact ⟨both.1.mpr paired, both.2.mpr paired⟩

/-- A date with a quote of its own ends its literal and goes on as another statement. -/
theorem dropped_table :
    ¬DatesQuoted "7" "2016-05-08'; DROP TABLE catapult.general; --" "2016-05-09" [10003] ∧
      ¬SameShape "7" "2016-05-08'; DROP TABLE catapult.general; --" "2016-05-09" [10003] := by
  have plainId : ∀ char ∈ "7".toList, char ≠ quote ∧ char ≠ ';' :=
    List.all_iff_forall_prop.mp (by decide)
  have single : doubled "2016-05-08'; DROP TABLE catapult.general; --".toList = false := rfl
  constructor
  · intro quoted
    have paired := (doubled_of_datesQuoted quoted).1
    rw [single] at paired
    cases paired
  · intro same
    have paired := (doubled_of_restShape ((sameShape_iff plainId).mp same)).1
    rw [single] at paired
    cases paired

end ApiPack2
