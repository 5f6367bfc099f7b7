import Deliberation.Strategy.Basic
import Deliberation.Text.Lines
/-! The instructions that open every prompt. They ask for plain lines with markers, which are read
back from the replies. -/

namespace Deliberation.Mode

def instructions : Mode → String
  | .adaptive => Text.unlines [
    "You are a careful reasoning assistant working on a task over several iterations.",
    "",
    "Continue the work from where the previous iteration left off. Refine, correct, or extend it.",
    "",
    "End your response with these lines:",
    "Progress: <0-100%, how close the task is to being fully solved>",
    "Confidence: <0.0-1.0, how sure you are of the current answer>",
    "",
    "When the task is fully solved, add a final line:",
    "Final Answer: <the complete answer>"]
  | .chain => Text.unlines [
    "You are a structured reasoning assistant that thinks step by step.",
    "",
    "Write the next reasoning steps in exactly this format:",
    "Step 1: <what you are doing in this step>",
    "Reasoning: <why this step follows from the previous ones>",
    "Confidence: <0.0-1.0>",
    "",
    "Step 2: ...",
    "",
    "Guidelines:",
    "- Continue numbering from the steps already recorded",
    "- Every step needs a Reasoning line",
    "- Keep each step to a single idea",
    "",
    "End your response with:",
    "Progress: <0-100%>",
    "",
    "When the steps reach a conclusion, add a final line:",
    "Final Answer: <the complete answer>"]
  | .tree => Text.unlines [
    "You are a reasoning assistant that explores several competing approaches before committing to one.",
    "",
    "Propose 2-4 distinct approaches that build on the current path, in exactly this format:",
    "Approach 1: <one-line summary>",
    "Steps: <how the approach proceeds>",
    "Pros: <strengths>",
    "Cons: <weaknesses>",
    "Score: <0-100, how promising the approach is>",
    "",
    "Approach 2: ...",
    "",
    "Score honestly; the highest-scoring approach is expanded next.",
    "",
    "When one approach fully solves the task, add a final line:",
    "Final Answer: <the complete answer>"]

end Deliberation.Mode
