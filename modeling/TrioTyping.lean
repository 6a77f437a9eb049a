import TrioTyping.Mypy.TypeVariables
import TrioTyping.Mypy.Aliases
import TrioTyping.AsyncGenerator.Decode
import TrioTyping.AsyncGenerator.AliasTransparency
import TrioTyping.AsyncGenerator.Callbacks
import TrioTyping.AsyncGenerator.YieldFrom
import TrioTyping.TakesCallable.Defs
import TrioTyping.TakesCallable.Scan
import TrioTyping.TakesCallable.Expansion
import TrioTyping.Calling.Shape
import TrioTyping.TakesCallable.Overloads
import TrioTyping.TakesCallable.Hygiene
import TrioTyping.Calling.Fitting
import TrioTyping.TakesCallable.EndToEnd
import TrioTyping.TakesCallable.UnionArm
import TrioTyping.Calling.Arity
import TrioTyping.Stubs.Nursery
import TrioTyping.TakesCallable.Outcome
import TrioTyping.TakesCallable.BareCallable
import TrioTyping.TakesCallable.AliasTransparency
import TrioTyping.AsyncGenerator.Body
import TrioTyping.AsyncGenerator.Meaning
import TrioTyping.AsyncGenerator.Runs
import TrioTyping.Calling.Leading
import TrioTyping.Plugin
import TrioTyping.Calling.Typed
import TrioTyping.Stubs.TaskStatus
import TrioTyping.TakesCallable.Instantiation
import TrioTyping.AsyncGenerator.Instantiation
import TrioTyping.AsyncGenerator.Inlining
import TrioTyping.Calling.Overload
import TrioTyping.Stubs.OpenFile
import TrioTyping.Stubs.OpenedFile
import TrioTyping.Stubs.ConstantOpen
import TrioTyping.Stubs.Tasks
