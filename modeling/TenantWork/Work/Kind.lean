import TenantWork.Text.Blank
/-!
The kinds of work. Callers may write a kind with any ASCII letter case and with or without the
underscores and hyphens between its words.
-/
namespace TenantWork

inductive Kind where
  | job
  | backtestTask
  | tradingSignal
  | tradeOrder
deriving DecidableEq, Repr

namespace Kind

def all : List Kind := [.job, .backtestTask, .tradingSignal, .tradeOrder]

def name : Kind → String
  | .job => "job"
  | .backtestTask => "backtest_task"
  | .tradingSignal => "trading_signal"
  | .tradeOrder => "trade_order"

/-- The kind with exactly this name. -/
def ofName? (text : String) : Option Kind := all.find? fun kind => kind.name == text

/-- A name without blanks around it, underscores, hyphens and capitals. -/
def plain (text : String) : List Char :=
  ((Text.trimChars text.toList).filter fun c => c != '_' && c != '-').map Char.toLower

/-- The kind a caller means. -/
def ofText? (text : String) : Option Kind :=
  all.find? fun kind => plain kind.name == plain text

end Kind

end TenantWork
