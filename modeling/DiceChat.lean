import DiceChat.Bot
import DiceChat.Json.Stored
import DiceChat.Source.Generator
import DiceChat.Source.Script
import DiceChat.Proofs.Expr.Spelling
import DiceChat.Proofs.Expr.Grammar
import DiceChat.Proofs.Expr.Steps
import DiceChat.Proofs.Expr.Acceptance
import DiceChat.Proofs.Expr.Text
import DiceChat.Proofs.Expr.Height
import DiceChat.Proofs.Expr.Tower
import DiceChat.Proofs.Text.Digits
import DiceChat.Proofs.Text.Trim
import DiceChat.Proofs.Directive.Format
import DiceChat.Proofs.Source.Drawing
import DiceChat.Proofs.Bot.Draws
import DiceChat.Proofs.Directive.Normal
import DiceChat.Proofs.Expr.Lexed
import DiceChat.Proofs.Expr.Faults
import DiceChat.Proofs.Source.Sums
import DiceChat.Proofs.Bot.Expression
import DiceChat.Proofs.Bot.Answers
import DiceChat.Proofs.Number.Packing
import DiceChat.Proofs.Number.Rounding
import DiceChat.Proofs.Number.Quotient
import DiceChat.Proofs.Number.Shortest
import DiceChat.Proofs.Number.Written
import DiceChat.Proofs.Bot.Faults
import DiceChat.Proofs.Expr.Levels
import DiceChat.Proofs.Expr.Printing
import DiceChat.Proofs.Json.Record
import DiceChat.Proofs.Dice.Validity
import DiceChat.Proofs.Expr.Counting
import DiceChat.Proofs.Expr.Calls
import DiceChat.Proofs.Expr.Taken
import DiceChat.Proofs.Expr.Positions
import DiceChat.Proofs.Expr.Unread
import DiceChat.Proofs.Dice.Range
import DiceChat.Proofs.Expr.CallStack
import DiceChat.Proofs.Expr.Integers
import DiceChat.Proofs.Number.Integers
import DiceChat.Proofs.Bot.Exact
import DiceChat.Proofs.Bot.Journal
import DiceChat.Proofs.Text.Utf8
import DiceChat.Proofs.Directive.Bytes
import DiceChat.Proofs.Text.Unsigned
import DiceChat.Proofs.Settings.Variables
import DiceChat.Proofs.Bot.Lines
import DiceChat.Proofs.Source.Replay
import DiceChat.Proofs.Expr.Programs
import DiceChat.Proofs.Expr.Partition
import DiceChat.Proofs.Expr.Spacing
import DiceChat.Proofs.Json.Grammar
import DiceChat.Proofs.Settings.Overlay
